import SyncWatch.Proofs.Settings.Usable
import SyncWatch.Proofs.Text.LetterCase
import SyncWatch.Settings.Feeds

/-!
# The tag in the address of a feed

A tag that can be used has ASCII letters, digits and two signs, and stands at the
end of the address of the log in capitals.  So it adds none of the characters
that divide an address, and two tags ask for the same log exactly when they
differ in white space around them and in the case of letters only.
-/

namespace SyncWatch

/-- A letter or digit is one of ASCII, and so are the two signs. -/
theorem toNat_lt_of_isTagChar
    {char : Char}
    (allowed : isTagChar char = true) :
    char.toNat < 0x80 := by
  simp only [isTagChar, Bool.or_eq_true, beq_iff_eq, Text.isAlphanum_iff, Text.isUpper_iff_toNat,
    Text.isLower_iff_toNat, Text.isDigit_iff_toNat] at allowed
  rcases allowed with (((capital | small) | digit) | rfl) | rfl
  · omega
  · omega
  · omega
  · decide
  · decide

/-- A character that an address has in place of a tag: a capital, a digit or one of
two signs. -/
def isSentTagChar (char : Char) : Bool :=
  char.isUpper || char.isDigit || char == '_' || char == '-'

/-- A character of a tag is sent as a capital, a digit or a sign. -/
theorem isSentTagChar_toUpper
    {char : Char}
    (allowed : isTagChar char = true) :
    isSentTagChar char.toUpper = true := by
  simp only [isTagChar, Bool.or_eq_true, beq_iff_eq, Text.isAlphanum_iff, Text.isUpper_iff_toNat,
    Text.isLower_iff_toNat, Text.isDigit_iff_toNat] at allowed
  rcases allowed with (((capital | small) | digit) | rfl) | rfl
  · have letter : char.toUpper.isUpper = true := by
      rw [Text.isUpper_iff_toNat, Text.toNat_toUpper, if_neg (by omega)]
      exact capital
    simp [isSentTagChar, letter]
  · have letter : char.toUpper.isUpper = true := by
      rw [Text.isUpper_iff_toNat, Text.toNat_toUpper, if_pos small]
      omega
    simp [isSentTagChar, letter]
  · have number : char.toUpper.isDigit = true := by
      rw [Text.isDigit_iff_toNat, Text.toNat_toUpper, if_neg (by omega)]
      exact digit
    simp [isSentTagChar, number]
  · decide
  · decide

namespace Settings

/-- A tag that can be used is not empty and has only characters of a tag. -/
theorem tag_of_usable
    {settings : Settings}
    (usable : settings.check = .ok ()) :
    settings.server.tag ≠ "" ∧ ∀ char ∈ settings.server.tag.toList, isTagChar char = true := by
  obtain ⟨-, nonempty, characters⟩ := server_of_check usable
  exact ⟨nonempty, List.all_eq_true.mp characters⟩

theorem toList_upper_tag
    {settings : Settings}
    (usable : settings.check = .ok ()) :
    (Text.upper settings.server.tag).toList = settings.server.tag.toList.map Char.toUpper :=
  Text.toList_upper_of_ascii fun char present =>
    toNat_lt_of_isTagChar ((tag_of_usable usable).2 char present)

/-- What is sent of a tag are capitals, digits and two signs. -/
theorem isSentTagChar_of_mem_upper_tag
    {settings : Settings}
    (usable : settings.check = .ok ()) :
    ∀ char ∈ (Text.upper settings.server.tag).toList, isSentTagChar char = true := by
  intro char present
  rw [toList_upper_tag usable] at present
  obtain ⟨written, inTag, rfl⟩ := List.mem_map.mp present
  exact isSentTagChar_toUpper ((tag_of_usable usable).2 written inTag)

/-- Each other character is in the address as often as without the tag. -/
theorem count_verboseAddress
    {settings : Settings}
    (usable : settings.check = .ok ())
    {mark : Char}
    (unsent : isSentTagChar mark = false) :
    settings.verboseAddress.toList.count mark =
      (settings.serverAddress ++ "/api/logs/stream?tag=").toList.count mark := by
  have absent : mark ∉ (Text.upper settings.server.tag).toList := by
    intro present
    rw [isSentTagChar_of_mem_upper_tag usable mark present] at unsent
    cases unsent
  rw [verboseAddress, String.toList_append, List.count_append, List.count_eq_zero.mpr absent]
  exact Nat.add_zero _

/-- Tags that can be used are sent in the same way exactly when they differ in the
case of letters only. -/
theorem upper_tag_eq_iff
    {first second : Settings}
    (usable : first.check = .ok ())
    (alsoUsable : second.check = .ok ()) :
    Text.upper first.server.tag = Text.upper second.server.tag ↔
      Text.lowerAscii first.server.tag = Text.lowerAscii second.server.tag := by
  rw [← String.toList_inj, toList_upper_tag usable, toList_upper_tag alsoUsable,
    Text.map_toUpper_eq_iff, Text.lowerAscii, Text.lowerAscii, String.ofList_inj]

/-- Behind the address of the server and a fixed path comes a text of capitals,
digits and two signs that is not empty, so the tag adds no step to the path, no
parameter and no fragment.  At one server two tags have the same address exactly
when they are equal up to white space around them and the case of ASCII letters. -/
theorem tag_stays_a_value :
    (∀ settings : Settings, settings.check = .ok () →
      (∃ sent, settings.verboseAddress =
          settings.serverAddress ++ "/api/logs/stream?tag=" ++ sent ∧
        sent ≠ "" ∧ ∀ char ∈ sent.toList, isSentTagChar char = true) ∧
      ∀ mark ∈ ['/', '?', '#', '&', ';', '=', '%'],
        settings.verboseAddress.toList.count mark =
          (settings.serverAddress ++ "/api/logs/stream?tag=").toList.count mark) ∧
    ∀ first second : Settings, first.check = .ok () → second.check = .ok () →
      first.serverAddress = second.serverAddress →
        (first.verboseAddress = second.verboseAddress ↔
          Text.lowerAscii (Text.trimmed first.server.logTag) =
            Text.lowerAscii (Text.trimmed second.server.logTag)) := by
  refine ⟨fun settings usable => ⟨⟨_, rfl, ?_, isSentTagChar_of_mem_upper_tag usable⟩, ?_⟩, ?_⟩
  · intro empty
    have nothing := congrArg String.toList empty
    rw [toList_upper_tag usable, String.toList_empty, List.map_eq_nil_iff] at nothing
    exact (tag_of_usable usable).1 (by simpa using nothing)
  · have divides : ∀ mark ∈ ['/', '?', '#', '&', ';', '=', '%'], isSentTagChar mark = false := by
      simp [isSentTagChar]
    exact fun mark listed => count_verboseAddress usable (divides mark listed)
  · intro first second usable alsoUsable same
    rw [verboseAddress, verboseAddress, same, String.append_right_inj,
      upper_tag_eq_iff usable alsoUsable]
    rfl

/-- A tag with white space around it and one in other letters ask for the same log,
and neither adds a parameter. -/
theorem tag_of_mixed_letters :
    let first := ({} : Settings).withLogTag "\u3000Plex_sync-2\u00a0"
    let second := ({} : Settings).withLogTag "pLEX_Sync-2"
    first.check = .ok () ∧ second.check = .ok () ∧
      first.serverAddress = second.serverAddress ∧
      first.verboseAddress = second.verboseAddress ∧
      first.verboseAddress = "http://localhost:8787/api/logs/stream?tag=PLEX_SYNC-2" ∧
      first.verboseAddress.toList.count '&' = 0 := by
  intro first second
  obtain ⟨sending, comparing⟩ := tag_stays_a_value
  have usable : first.check = .ok () := by decide +kernel
  have alsoUsable : second.check = .ok () := by decide +kernel
  have same : first.serverAddress = second.serverAddress := rfl
  have letters : Text.lowerAscii (Text.trimmed first.server.logTag) =
      Text.lowerAscii (Text.trimmed second.server.logTag) := by decide +kernel
  have marks := (sending first usable).2 '&' (by simp)
  exact ⟨usable, alsoUsable, same, (comparing first second usable alsoUsable same).mpr letters,
    by decide +kernel, marks.trans (by decide +kernel)⟩

end Settings
end SyncWatch
