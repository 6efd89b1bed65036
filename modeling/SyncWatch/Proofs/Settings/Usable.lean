import SyncWatch.Settings.Validity

/-!
# Settings that can be used

A check of settings succeeds exactly when each of its conditions holds, and the
conditions on the address and on the tag of the server concern one text each.
-/

namespace SyncWatch

@[simp] theorem require_eq_ok_iff (condition : Bool) (fault : SettingsFault) :
    require condition fault = .ok () ↔ condition = true := by
  cases condition <;> simp [require]

/-- Checks in a row succeed when each of them does. -/
theorem check_bind_eq_ok_iff (first : Except SettingsFault Unit)
    (second : Unit → Except SettingsFault Unit) :
    first >>= second = .ok () ↔ first = .ok () ∧ second () = .ok () := by
  cases first with
  | ok => simp [bind, Except.bind]
  | error => simp [bind, Except.bind]

namespace ServerSettings

/-- An address that can be used. -/
def UsableAddress (address : String) : Prop :=
  hasScheme (Text.trimmed address) = true

/-- A tag that can be used. -/
def UsableTag (tag : String) : Prop :=
  Text.trimmed tag ≠ "" ∧ (Text.trimmed tag).toList.all isTagChar = true

theorem isEmpty_eq_false_of_hasScheme
    {address : String}
    (scheme : hasScheme address = true) :
    address.isEmpty = false := by
  refine Bool.eq_false_iff.mpr fun empty => ?_
  obtain rfl : address = "" := by simpa using empty
  exact absurd scheme (by decide)

theorem check_eq_ok_iff (server : ServerSettings) :
    server.check = .ok () ↔ UsableAddress server.baseUrl ∧ UsableTag server.logTag := by
  simp only [check, check_bind_eq_ok_iff, require_eq_ok_iff, address, tag, UsableAddress,
    UsableTag]
  constructor
  · rintro ⟨_, scheme, nonempty, characters⟩
    exact ⟨scheme, by simpa using nonempty, characters⟩
  · rintro ⟨scheme, nonempty, characters⟩
    exact ⟨by simp [isEmpty_eq_false_of_hasScheme scheme], scheme, by simpa using nonempty,
      characters⟩

end ServerSettings

/-- Delays that can be used are positive and in order. -/
theorem StreamSettings.check_eq_ok_iff (stream : StreamSettings) :
    stream.check = .ok () ↔
      0 < stream.initialRetryMillis ∧
        stream.initialRetryMillis ≤ stream.longestRetryMillis ∧ 0 < stream.stalenessSeconds := by
  simp only [check, check_bind_eq_ok_iff, require_eq_ok_iff, decide_eq_true_eq]

namespace Settings

theorem check_eq_ok_iff (settings : Settings) :
    settings.check = .ok () ↔
      settings.server.check = .ok () ∧ settings.stream.check = .ok () ∧
        settings.display.check = .ok () := by
  rw [check, check_bind_eq_ok_iff, check_bind_eq_ok_iff]

theorem server_of_check
    {settings : Settings}
    (usable : settings.check = .ok ()) :
    ServerSettings.UsableAddress settings.server.baseUrl ∧
      ServerSettings.UsableTag settings.server.logTag :=
  (ServerSettings.check_eq_ok_iff _).mp ((check_eq_ok_iff settings).mp usable).1

theorem validated_of_fault
    {settings : Settings}
    {fault : SettingsFault}
    (faulty : settings.check = .error fault) :
    settings.validated = .error (.configValidation fault.message) := by
  rw [validated, faulty]

theorem validated_of_usable
    {settings : Settings}
    (usable : settings.check = .ok ()) :
    settings.validated = .ok settings := by
  rw [validated, usable]

theorem validated_eq_ok_iff (settings result : Settings) :
    settings.validated = .ok result ↔ settings.check = .ok () ∧ result = settings := by
  cases checked : settings.check with
  | ok => simp [validated_of_usable checked, eq_comm]
  | error fault => simp [validated_of_fault checked]

end Settings
end SyncWatch
