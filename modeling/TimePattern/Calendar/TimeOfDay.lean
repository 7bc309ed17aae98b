/-!
# Times of day

The fields are carried as given. A leap second is the second after second 59: its own second
reads 60.
-/

namespace TimePattern

/-- An hour, a minute, a second and a fraction in nanoseconds, none of them checked. -/
structure TimeOfDay where
  hour : UInt8
  minute : UInt8
  second : UInt8
  nanosecond : UInt32
  deriving DecidableEq

namespace TimeOfDay

/-- Midnight. -/
instance : Inhabited TimeOfDay := ⟨0, 0, 0, 0⟩

/-- Whole seconds since midnight. -/
def secondsOfDay (t : TimeOfDay) : Int :=
  t.hour.toNat * 3600 + t.minute.toNat * 60 + t.second.toNat

/-- The time that a clock shows `seconds` after midnight and `nanosecond` later. A fraction of
    a second or more belongs to a leap second. -/
def ofSecondsOfDay (seconds nanosecond : Nat) : TimeOfDay :=
  let extra := if nanosecond < 1000000000 then 0 else 1
  { hour := UInt8.ofNat (seconds / 3600)
    minute := UInt8.ofNat (seconds / 60 % 60)
    second := UInt8.ofNat (seconds % 60 + extra)
    nanosecond := UInt32.ofNat (nanosecond - extra * 1000000000) }

/-- Whether a clock can show the time outside a leap second, to the whole second. -/
def IsWhole (t : TimeOfDay) : Prop :=
  t.hour.toNat < 24 ∧ t.minute.toNat < 60 ∧ t.second.toNat < 60 ∧ t.nanosecond = 0

instance (t : TimeOfDay) : Decidable t.IsWhole := inferInstanceAs (Decidable (_ ∧ _))

end TimeOfDay

end TimePattern
