import SyncWatch.CommandLine.Tree
import SyncWatch.Proofs.Settings.Usable

/-!
# Flags over the settings of a file

The settings of a file are checked before the flags of the command line replace
some of them, and again afterwards.  So flags decide about the settings of a
file only when the file is usable without them: a fault of the file is reported
although a flag would replace what is at fault.
-/

namespace SyncWatch

namespace Settings

/-- The settings that a text holds, whether they can be used or not; a blank
text holds the standard ones. -/
def ofText (text : String) : Except Yaml.DocumentError Settings :=
  if Text.isBlankText text then .ok {} else decode text

theorem ofText_eq_ok
    {text : String}
    {settings : Settings}
    (held : (ofText text).toOption = some settings) :
    ofText text = .ok settings := by
  cases decoded : ofText text with
  | ok found =>
    rw [decoded] at held
    exact congrArg Except.ok (Option.some.inj held)
  | error error =>
    rw [decoded] at held
    contradiction

/-- A file is read as the settings that its text holds, if they can be used:
the standard settings, which a blank file is not checked for, can. -/
theorem parse_of_ofText
    {text : String}
    {settings : Settings}
    (held : ofText text = .ok settings)
    (path : String) :
    parse path text = settings.validated := by
  rw [ofText] at held
  rw [parse]
  split at held
  next blank =>
    obtain rfl : {} = settings := Except.ok.inj held
    have standard : ({} : Settings).check = .ok () := rfl
    rw [if_pos blank, validated_of_usable standard]
  next written =>
    rw [if_neg written, held]

end Settings

namespace Overrides

/-- The flags that are given set values that can be used. -/
structure Usable (overrides : Overrides) : Prop where
  address : ∀ address ∈ overrides.baseUrl, ServerSettings.UsableAddress address
  tag : ∀ tag ∈ overrides.logTag, ServerSettings.UsableTag tag

/-- A value that stands in place of a good one is good when it is given. -/
theorem getD_iff
    {Value : Type}
    {Good : Value → Prop}
    {standard : Value}
    (given : Option Value)
    (good : Good standard) :
    Good (given.getD standard) ↔ ∀ value ∈ given, Good value := by
  cases given with
  | none => simp [good]
  | some value => simp

/-- Over usable settings only the values of the flags themselves count. -/
theorem check_apply_eq_ok_iff
    {settings : Settings}
    (overrides : Overrides)
    (usable : settings.check = .ok ()) :
    (overrides.apply settings).check = .ok () ↔ overrides.Usable := by
  obtain ⟨server, stream, display⟩ := (Settings.check_eq_ok_iff settings).mp usable
  obtain ⟨address, tag⟩ := (ServerSettings.check_eq_ok_iff _).mp server
  have streamKept : (overrides.apply settings).stream.check = .ok () := stream
  have displayKept : (overrides.apply settings).display.check = .ok () := display
  have addressSet : (overrides.apply settings).server.baseUrl =
      overrides.baseUrl.getD settings.server.baseUrl := rfl
  have tagSet : (overrides.apply settings).server.logTag =
      overrides.logTag.getD settings.server.logTag := rfl
  rw [Settings.check_eq_ok_iff, ServerSettings.check_eq_ok_iff, addressSet, tagSet,
    getD_iff _ address, getD_iff _ tag]
  exact ⟨fun checked => ⟨checked.1.1, checked.1.2⟩,
    fun usable => ⟨⟨usable.address, usable.tag⟩, streamKept, displayKept⟩⟩

end Overrides

namespace CommandLine

/-- The file that the settings come from: the one that the options name, or the
one in the home directory. -/
def settingsPath (home : Option String) (options : Options) : Option String :=
  options.configFile.or ((home.filter (· ≠ "")).map Home.settingsFile)

theorem run_home (home : Option String) (tree : Tree) :
    (Tree.host home).home.run tree = pure (home, tree) := rfl

theorem run_readFile (home : Option String) (tree : Tree) (path : String) :
    ((Tree.host home).readFile path).run tree = pure (tree.read path, tree) := rfl

/-- Reading the file gives the settings of its text, if they can be used. -/
theorem run_loadFile
    {home : Option String}
    {options : Options}
    {tree : Tree}
    {path text : String}
    {settings : Settings}
    (place : settingsPath home options = some path)
    (reading : tree.read path = .content text)
    (held : Settings.ofText text = .ok settings) :
    (loadFile (Tree.host home) options).run tree = (settings.validated, tree) := by
  rw [← Settings.parse_of_ofText held path]
  rw [settingsPath] at place
  rw [loadFile, StateT.run_bind, run_home, pure_bind]
  cases named : options.configFile with
  | some file =>
    obtain rfl : file = path := by simpa [named] using place
    simp only [StateT.run_bind, run_readFile, pure_bind, reading]
    rfl
  | none =>
    cases housed : home.filter (· ≠ "") with
    | none =>
      rw [named, housed] at place
      contradiction
    | some directory =>
      rw [named, housed] at place
      obtain rfl : Home.settingsFile directory = path := Option.some.inj place
      simp only [StateT.run_bind, run_readFile, pure_bind, reading]
      rfl

/-- Loading checks the settings of the file, sets the flags and checks again. -/
theorem run_loadSettings
    {home : Option String}
    {options : Options}
    {tree : Tree}
    {path text : String}
    {settings : Settings}
    (place : settingsPath home options = some path)
    (reading : tree.read path = .content text)
    (held : Settings.ofText text = .ok settings) :
    (loadSettings (Tree.host home) options).run tree =
      (settings.validated.bind options.overrides.effective, tree) := by
  rw [loadSettings, StateT.run_bind, run_loadFile place reading held]
  rfl

/-- Flags decide about a file with usable settings, and about no other: the
settings with the flags set are loaded when they can be used, which the values
of the flags alone decide.  Of a file with a fault the fault is reported, whatever
the flags are. -/
theorem loadSettings_of_file
    {home : Option String}
    {options : Options}
    {tree : Tree}
    {path text : String}
    {settings : Settings}
    (place : settingsPath home options = some path)
    (reading : tree.read path = .content text)
    (held : Settings.ofText text = .ok settings) :
    (settings.check = .ok () →
      (∀ result, (loadSettings (Tree.host home) options).run tree = (.ok result, tree) ↔
        (options.overrides.apply settings).check = .ok () ∧
          result = options.overrides.apply settings) ∧
      ((options.overrides.apply settings).check = .ok () ↔ options.overrides.Usable)) ∧
    (∀ fault, settings.check = .error fault →
      (loadSettings (Tree.host home) options).run tree =
        (.error (.configValidation fault.message), tree)) := by
  have loaded := run_loadSettings place reading held
  refine ⟨fun usable => ⟨fun result => ?_, ?_⟩, fun fault faulty => ?_⟩
  · rw [loaded, Settings.validated_of_usable usable, ← Settings.validated_eq_ok_iff]
    simp only [Except.bind, Overrides.effective]
    generalize (options.overrides.apply settings).validated = outcome
    exact ⟨fun same => (Prod.mk.inj same).1, fun same => by rw [same]⟩
  · exact options.overrides.check_apply_eq_ok_iff usable
  · rw [loaded, Settings.validated_of_fault faulty]
    rfl

/-- A tree with one file, at the place that a path names. -/
def Tree.single (path text : String) : Tree where
  files := [(placeOf path, text.toUTF8)]

theorem Tree.read_single
    {path : String}
    (text : String)
    (slashless : Text.endsWith path "/" = false) :
    (Tree.single path text).read path = .content text := by
  have decoded : String.fromUTF8? text.toUTF8 = some text := dif_pos text.isValidUTF8
  have found : (Tree.single path text).files.lookup (placeOf path) = some text.toUTF8 := by
    simp [single]
  rw [read, found]
  simp only [slashless, Bool.false_eq_true, if_false]
  unfold FileReading.ofBytes
  rw [decoded]

/-- What `--config /c --url http://nas:8787` asks for. -/
def urlOptions : Options where
  configFile := some "/c"
  overrides := { baseUrl := some "http://nas:8787" }

theorem settingsPath_urlOptions : settingsPath none urlOptions = some "/c" := rfl

theorem read_c (text : String) : (Tree.single "/c" text).read "/c" = .content text :=
  Tree.read_single text (by decide)

/-- The flag replaces the address of a file that can be used without it. -/
theorem load_tag_with_flag :
    (loadSettings (Tree.host none) urlOptions).run
        (Tree.single "/c" "server: \x7blog_tag: NAS\x7d") =
      (.ok { server := { baseUrl := "http://nas:8787", logTag := "NAS" } },
        Tree.single "/c" "server: \x7blog_tag: NAS\x7d") := by
  have held : Settings.ofText "server: \x7blog_tag: NAS\x7d" =
      .ok { server := { logTag := "NAS" } } :=
    Settings.ofText_eq_ok (by decide +kernel)
  have usable : Settings.check { server := { logTag := "NAS" } } = .ok () := rfl
  have flags : urlOptions.overrides.Usable :=
    { address := by
        rintro _ ⟨⟩
        rw [ServerSettings.UsableAddress]
        decide
      tag := nofun }
  obtain ⟨loaded, decided⟩ :=
    (loadSettings_of_file settingsPath_urlOptions (read_c _) held).1 usable
  exact (loaded _).mpr ⟨decided.mpr flags, rfl⟩

/-- The flag repairs the settings and not the file: with its address they could
be used, and the address of the file is reported. -/
theorem load_address_with_flag :
    parse ["--config", "/c", "--url", "http://nas:8787"] = .ok urlOptions ∧
      Settings.ofText "server: \x7bbase_url: nas\x7d" =
        .ok { server := { baseUrl := "nas" } } ∧
      (urlOptions.overrides.apply { server := { baseUrl := "nas" } }).check = .ok () ∧
      (loadSettings (Tree.host none) urlOptions).run
          (Tree.single "/c" "server: \x7bbase_url: nas\x7d") =
        (.error (.configValidation
            "server.base_url must start with http:// or https:// (got nas)"),
          Tree.single "/c" "server: \x7bbase_url: nas\x7d") := by
  have held : Settings.ofText "server: \x7bbase_url: nas\x7d" =
      .ok { server := { baseUrl := "nas" } } :=
    Settings.ofText_eq_ok (by decide +kernel)
  have faulty : Settings.check { server := { baseUrl := "nas" } } =
      .error (.addressScheme "nas") := rfl
  refine ⟨rfl, held, rfl, ?_⟩
  rw [run_loadSettings settingsPath_urlOptions (read_c _) held,
    Settings.validated_of_fault faulty]
  rfl

end CommandLine
end SyncWatch
