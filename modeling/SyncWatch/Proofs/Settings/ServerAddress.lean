import SyncWatch.Address.Basic
import SyncWatch.Proofs.Settings.Usable
import SyncWatch.Proofs.Text.Trim
import SyncWatch.Settings.Feeds
import Mathlib.Data.List.DropRight

/-!
# The address of the server

The addresses of the feeds are made from the address of the server without the
slashes at its end.  Settings are checked with them: the address has to begin
with a scheme, which ends with slashes itself.  So the check lets an address
pass in which only slashes follow the scheme, and that loses those of the scheme
as well; and one with white space in front of the last slashes ends with it.
Every other address that passes keeps its scheme and what it names behind it.
-/

namespace SyncWatch

theorem dropSlashes_eq (text : List Char) : dropSlashes text = text.rdropWhile (· == '/') := rfl

/-- Slashes at the end are taken off with those in front of them. -/
theorem dropSlashes_append_slashes
    {slashes : List Char}
    (only : ∀ char ∈ slashes, char = '/')
    (text : List Char) :
    dropSlashes (text ++ slashes) = dropSlashes text := by
  induction slashes using List.reverseRecOn with
  | nil => rw [List.append_nil]
  | append_singleton slashes slash inductionHypothesis =>
      have last : slash = '/' := only slash (by simp)
      have others : ∀ char ∈ slashes, char = '/' :=
        fun char present => only char (List.mem_append_left _ present)
      rw [← List.append_assoc, dropSlashes_eq, List.rdropWhile_concat_pos _ _ _ (by simp [last])]
      exact inductionHypothesis others

theorem dropSlashes_concat
    {last : Char}
    (kept : last ≠ '/')
    (text : List Char) :
    dropSlashes (text ++ [last]) = text ++ [last] :=
  List.rdropWhile_concat_neg _ _ _ (by simpa using kept)

/-- A text is what is left without its last slashes, and slashes. -/
theorem exists_eq_dropSlashes_append (text : List Char) :
    ∃ slashes, text = dropSlashes text ++ slashes ∧ ∀ char ∈ slashes, char = '/' := by
  refine ⟨text.rtakeWhile (· == '/'), ?_, ?_⟩
  · exact List.rdropWhile_append_rtakeWhile.symm
  · intro char present
    simpa using List.mem_rtakeWhile_imp present

/-- What is left does not end with a slash. -/
theorem ne_slash_of_dropSlashes_eq_concat
    {text before : List Char}
    {last : Char}
    (shape : dropSlashes text = before ++ [last]) :
    last ≠ '/' := by
  have nonempty : text.rdropWhile (· == '/') ≠ [] := by
    rw [← dropSlashes_eq, shape]
    simp
  have kept := List.rdropWhile_last_not _ _ nonempty
  simpa [← dropSlashes_eq, shape] using kept

/-- The beginnings of the addresses that can be used. -/
def webSchemes : List String := ["http://", "https://"]

theorem mem_webSchemes_iff (scheme : String) :
    scheme ∈ webSchemes ↔ scheme = "http://" ∨ scheme = "https://" := by
  simp [webSchemes]

theorem hasScheme_iff (address : String) :
    hasScheme address = true ↔
      ∃ scheme ∈ webSchemes, ∃ place, address.toList = scheme.toList ++ place := by
  have begins (beginning : String) : Text.startsWith address beginning = true ↔
      ∃ place, address.toList = beginning.toList ++ place := by
    rw [Text.startsWith, List.isPrefixOf_iff_prefix]
    exact ⟨fun ⟨place, equal⟩ => ⟨place, equal.symm⟩, fun ⟨place, equal⟩ => ⟨place, equal.symm⟩⟩
  rw [hasScheme, Bool.or_eq_true, begins, begins]
  simp only [mem_webSchemes_iff, exists_eq_or_imp, exists_eq_left]

theorem head_of_mem_webSchemes
    {scheme : String}
    (listed : scheme ∈ webSchemes) :
    ∃ rest, scheme.toList = 'h' :: rest := by
  rcases (mem_webSchemes_iff scheme).mp listed with rfl | rfl
  · exact ⟨"ttp://".toList, rfl⟩
  · exact ⟨"ttps://".toList, rfl⟩

/-- A scheme with nothing behind it loses its own slashes. -/
theorem dropSlashes_of_mem_webSchemes
    {scheme : String}
    (listed : scheme ∈ webSchemes) :
    dropSlashes scheme.toList = "http:".toList ∨ dropSlashes scheme.toList = "https:".toList := by
  rcases (mem_webSchemes_iff scheme).mp listed with rfl | rfl
  · exact Or.inl (by decide)
  · exact Or.inr (by decide)

/-- An address names a server: it has a scheme with more than slashes behind it, it
does not end with a slash, and no white space stands around it. -/
structure NamesServer (address : String) : Prop where
  named : ∃ scheme ∈ webSchemes, ∃ place, address.toList = scheme.toList ++ place ∧
    ∃ char ∈ place, char ≠ '/'
  slashless : address.toList.getLast? ≠ some '/'
  trimmed : Text.trimmed address = address

/-- An address names a place: behind its scheme comes a text that ends, in front of
any slashes, with a character that is not blank. -/
def NamesPlace (address : String) : Prop :=
  ∃ scheme ∈ webSchemes, ∃ before last slashes,
    address.toList = scheme.toList ++ before ++ [last] ++ slashes ∧
      last ≠ '/' ∧ Text.isBlank last = false ∧ ∀ char ∈ slashes, char = '/'

namespace Settings

theorem toList_serverAddress (settings : Settings) :
    settings.serverAddress.toList = dropSlashes settings.server.address.toList :=
  String.toList_ofList

theorem getLast?_serverAddress (settings : Settings) :
    settings.serverAddress.toList.getLast? ≠ some '/' := by
  intro slash
  obtain ⟨before, shape⟩ := List.getLast?_eq_some_iff.mp slash
  rw [toList_serverAddress] at shape
  exact ne_slash_of_dropSlashes_eq_concat shape rfl

theorem namesServer_of_namesPlace
    {settings : Settings}
    (place : NamesPlace settings.server.address) :
    NamesServer settings.serverAddress := by
  obtain ⟨scheme, listed, before, last, slashes, shape, kept, visible, only⟩ := place
  have equal : settings.serverAddress.toList = scheme.toList ++ before ++ [last] := by
    rw [toList_serverAddress, shape, dropSlashes_append_slashes only, dropSlashes_concat kept]
  refine ⟨⟨scheme, listed, before ++ [last], ?_, last, by simp, kept⟩,
    settings.getLast?_serverAddress, ?_⟩
  · rw [equal, List.append_assoc]
  · obtain ⟨rest, begins⟩ := head_of_mem_webSchemes listed
    rw [begins, List.cons_append, List.cons_append] at equal
    rw [Text.trimmed, equal, Text.trim_eq_self (by decide) visible, ← equal, String.ofList_toList]

theorem namesPlace_of_namesServer
    {settings : Settings}
    (server : NamesServer settings.serverAddress) :
    NamesPlace settings.server.address := by
  obtain ⟨⟨scheme, listed, place, shape, char, present, -⟩, -, trimmed⟩ := server
  rcases List.eq_nil_or_concat' place with rfl | ⟨before, last, rfl⟩
  · cases present
  · rw [← List.append_assoc] at shape
    have left := settings.toList_serverAddress.symm.trans shape
    have trimmedShape : Text.trim settings.serverAddress.toList =
        scheme.toList ++ before ++ [last] := by
      rw [← Text.toList_trimmed, trimmed, shape]
    obtain ⟨slashes, whole, only⟩ := exists_eq_dropSlashes_append settings.server.address.toList
    rw [left] at whole
    exact ⟨scheme, listed, before, last, slashes, whole, ne_slash_of_dropSlashes_eq_concat left,
      Text.isBlank_of_trim_eq_concat trimmedShape, only⟩

/-- An address that passes the check and names no place loses the slashes of its
scheme, or ends with white space. -/
theorem serverAddress_of_not_namesPlace
    {settings : Settings}
    (usable : settings.check = .ok ())
    (unnamed : ¬NamesPlace settings.server.address) :
    settings.serverAddress = "http:" ∨ settings.serverAddress = "https:" ∨
      ∃ before blank, settings.serverAddress.toList = before ++ [blank] ∧
        Text.isBlank blank = true := by
  obtain ⟨scheme, listed, place, shape⟩ :=
    (hasScheme_iff settings.server.address).mp (server_of_check usable).1
  obtain ⟨slashes, whole, only⟩ := exists_eq_dropSlashes_append place
  have extended : settings.server.address.toList =
      scheme.toList ++ dropSlashes place ++ slashes := by
    rw [List.append_assoc, ← whole, shape]
  have equal : settings.serverAddress.toList = dropSlashes (scheme.toList ++ dropSlashes place) := by
    rw [toList_serverAddress, extended, dropSlashes_append_slashes only]
  rcases List.eq_nil_or_concat' (dropSlashes place) with empty | ⟨before, last, left⟩
  · rw [empty, List.append_nil] at equal
    rcases dropSlashes_of_mem_webSchemes listed with bare | bare
    · exact Or.inl (String.toList_inj.mp (equal.trans bare))
    · exact Or.inr (Or.inl (String.toList_inj.mp (equal.trans bare)))
  · have kept : last ≠ '/' := ne_slash_of_dropSlashes_eq_concat left
    rw [left, ← List.append_assoc, dropSlashes_concat kept] at equal
    cases blank : Text.isBlank last with
    | true => exact Or.inr (Or.inr ⟨_, last, equal, blank⟩)
    | false =>
        rw [left, ← List.append_assoc] at extended
        exact absurd ⟨scheme, listed, before, last, slashes, extended, kept, blank, only⟩ unnamed

/-- Of settings that can be used, the address of the server never ends with a slash,
and the addresses of the feeds are that address with a fixed path behind it.  It
names a server exactly when the address that is set names a place.  Otherwise it
is nothing but a scheme without its slashes, or it ends with white space. -/
theorem serverAddress_of_usable
    {settings : Settings}
    (usable : settings.check = .ok ()) :
    settings.serverAddress.toList.getLast? ≠ some '/' ∧
      settings.verboseAddress =
        settings.serverAddress ++ "/api/logs/stream?tag=" ++ Text.upper settings.server.tag ∧
      settings.summaryAddress = settings.serverAddress ++ "/api/run/summary/stream" ∧
      (NamesServer settings.serverAddress ↔ NamesPlace settings.server.address) ∧
      (¬NamesPlace settings.server.address →
        settings.serverAddress = "http:" ∨ settings.serverAddress = "https:" ∨
          ∃ before blank, settings.serverAddress.toList = before ++ [blank] ∧
            Text.isBlank blank = true) :=
  ⟨settings.getLast?_serverAddress, rfl, rfl,
    ⟨namesPlace_of_namesServer, namesServer_of_namesPlace⟩,
    serverAddress_of_not_namesPlace usable⟩

/-- White space around an address and slashes behind it do not count. -/
theorem serverAddress_of_address_with_slashes :
    let settings := ({} : Settings).withBaseUrl "\x0b https://nas.local:8787/sync// "
    settings.check = .ok () ∧ NamesPlace settings.server.address ∧
      NamesServer settings.serverAddress ∧
      settings.serverAddress = "https://nas.local:8787/sync" := by
  intro settings
  have usable : settings.check = .ok () := by decide +kernel
  have place : NamesPlace settings.server.address :=
    ⟨"https://", by decide, "nas.local:8787/syn".toList, 'c', ['/', '/'], by decide +kernel,
      by decide, by decide, by simp⟩
  obtain ⟨-, -, -, named, -⟩ := serverAddress_of_usable usable
  exact ⟨usable, place, named.mpr place, by decide +kernel⟩

/-- An address in which nothing follows the scheme passes the check, and the address
that is used has lost the slashes of the scheme, so that the feed asks a server
with the name of the first step of its path.  Another one that passes ends with
white space. -/
theorem address_without_server_is_usable :
    let settings := ({} : Settings).withBaseUrl "http://"
    let spaced := ({} : Settings).withBaseUrl "http://nas /"
    settings.check = .ok () ∧ settings.serverAddress = "http:" ∧
      ¬NamesServer settings.serverAddress ∧
      ((Address.parse? settings.verboseAddress).map fun address => (address.host, address.path)) =
        some ("api".toList, "/logs/stream".toList) ∧
      spaced.check = .ok () ∧ spaced.serverAddress = "http://nas " ∧
      ¬NamesServer spaced.serverAddress := by
  intro settings spaced
  have bare : settings.serverAddress = "http:" := by decide +kernel
  have blank : spaced.serverAddress = "http://nas " := by decide +kernel
  refine ⟨by decide +kernel, bare, ?_, by decide +kernel, by decide +kernel, blank, ?_⟩
  · rw [bare]
    rintro ⟨⟨scheme, listed, place, shape, -⟩, -, -⟩
    rcases (mem_webSchemes_iff scheme).mp listed with rfl | rfl
    · simp at shape
    · simp at shape
  · rw [blank]
    rintro ⟨-, -, trimmed⟩
    exact absurd trimmed (by decide +kernel)

end Settings
end SyncWatch
