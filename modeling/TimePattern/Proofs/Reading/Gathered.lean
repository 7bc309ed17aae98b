import TimePattern.Proofs.Reading.Failure
import TimePattern.Proofs.Reading.Range

/-!
# What reading gathers

Reading ends with a stamp, be it behind the last directive or at one that does not match. In both
cases the stamp is in range, and each number in it is the one that stood in the text: no reader
takes more than its part of the stamp can hold.

## Key results

- `Pattern.Gathers.within`: what was gathered is in range
- `Directive.Finds.number_eq`: a number is stored as it was read
- `Pattern.gathers_within`: both for patterns of built-in directives
-/

namespace TimePattern

/-! ## Stamps -/

/-- The stamp that reading a text has gathered when it ends. -/
def Pattern.Gathers (p : Pattern) (text : List Char) (s : Stamp) : Prop :=
  (∃ rest, p.read text = .ok ⟨s, rest⟩) ∨
    ∃ e : Mismatch, p.read text = .error (.mismatch e) ∧ e.soFar = s

/-- What was gathered up to a mismatch was read by the directives before it. -/
theorem Pattern.Gathers.exists_read {p : Pattern} {text : List Char} {s : Stamp}
    (h : p.Gathers text s) : ∃ k rest, (p.take k).read text = .ok ⟨s, rest⟩ := by
  obtain ⟨rest, hread⟩ | ⟨e, hread, rfl⟩ := h
  · -- All directives were read
    refine ⟨p.directives.length, rest, ?_⟩
    rw [Pattern.read, take, List.take_length]
    exact hread
  · -- The directive that does not match leaves what those before it gathered
    obtain ⟨k, d, r, -, hbefore, herror⟩ := readFrom_eq_error_iff.1 hread
    obtain ⟨-, hsoFar, -⟩ := Directive.eq_of_read_eq_mismatch herror
    rw [hsoFar]
    exact ⟨k, r.rest, hbefore⟩

/-- If the directives keep to some bounds, then so does the stamp that was gathered, however reading
    ended. -/
theorem Pattern.Gathers.within {maxYear maxOffset : Nat} (hyear : 262142 ≤ maxYear)
    (hoffset : 6039 ≤ maxOffset) {p : Pattern}
    (hp : ∀ d ∈ p.directives, d.Bounded maxYear maxOffset) {text : List Char} {s : Stamp}
    (h : p.Gathers text s) : s.Within maxYear maxOffset := by
  obtain ⟨k, rest, hread⟩ := h.exists_read
  -- The directives before the mismatch keep to the same bounds, since they are directives of the
  -- pattern
  exact readFrom_within hyear hoffset (fun d hd => hp d (List.mem_of_mem_take hd))
    (Stamp.within_default maxYear maxOffset) hread

/-- Only a year and an offset in minutes can be of any length. -/
theorem Directive.bounded_of_not_custom {d : Directive} (hd : d.isCustom = false)
    {maxYear maxOffset : Nat} (hyear : d = .year → 2147483647 ≤ maxYear)
    (hoffset : d = .offsetMinutes → 2147483647 ≤ maxOffset) : d.Bounded maxYear maxOffset := by
  cases d with
  | year => exact hyear rfl
  | offsetMinutes => exact hoffset rfl
  | custom own => cases hd
  | _ => trivial

/-! ## Numbers -/

/-- The number that a finding stores, if it stores one. A date and a time stand for the seconds of
    their instant at UTC. -/
def Update.number? : Update → Option Int
  | nothing | month _ => none
  | year y => some y.toInt
  | day d => some d.toNat
  | hour h => some h.toNat
  | minute m => some m.toNat
  | second s => some s.toNat
  | dateAndTime date time => some (⟨date, time, 0⟩ : Stamp).epochSeconds
  | offset m => some m.toInt

/-- The number that a directive reads, of any size and with its sign. It is `none` for those that do
    not store a number: months are stored by name, and literal characters not at all. -/
def Directive.numeral? : Directive → Option (Reader Int)
  | year => some (.map Int.ofNat Field.year)
  | year4 => some (.map Int.ofNat (Field.fixedDigits 4))
  | year2 => some (.map Int.ofNat Field.yearTwoDigit)
  | day => some (.map Int.ofNat Field.shortDigits)
  | day2 | hour | minute | second => some (.map Int.ofNat (Field.fixedDigits 2))
  | unixSecond => some (.map Int.ofNat Field.epochSeconds)
  | offsetColon => some Field.offsetColon
  | offsetCompact => some Field.offsetCompact
  | offsetMinutes => some Field.offsetMinutes
  | month | month2 | monthShort | dayOfYear | zoneName | space | literal _ | custom _ => none

/-- A year of 31 bits is stored as it is. -/
theorem Update.number?_ofYear {n : Nat} (h : n ≤ 2147483647) :
    (Update.ofYear n).number? = some (n : Int) := by
  simp only [ofYear, number?, toInt_int32_ofNat h]

/-- An offset is stored as it is if its number has 31 bits besides the sign. -/
theorem Update.number?_ofOffset {m : Int} (h : m.natAbs ≤ 2147483647) :
    (Update.ofOffset m).number? = some m := by
  simp only [ofOffset, number?, toInt_int32_ofInt h]

/-- Seconds are stored as the date and the time that count up to them. -/
theorem Update.number?_ofEpochSeconds {n : Nat} {u : Update} (h : Update.ofEpochSeconds n = .ok u) :
    u.number? = some (n : Int) := by
  obtain ⟨date, time, hcivil, rfl⟩ := ofEpochSeconds_eq_ok_iff.1 h
  -- The date and the time count up to the seconds
  obtain ⟨-, -, -, -, hn⟩ := civilOfEpochSeconds?_eq_some_iff.1 hcivil
  simp [number?, Stamp.epochSeconds, hn]

/-- A reader followed by a function leaves the same text. -/
theorem Reader.map_of_eq_some {α β : Type} (f : α → β) {p : Reader α} {text rest : List Char}
    {a : α} (h : p text = some (a, rest)) : p.map f text = some (f a, rest) := by
  rw [map, h]
  rfl

/-- A directive stores the number that it reads: what its field reader takes is never larger than
    the part of the stamp, and an offset has no sign too many. -/
theorem Directive.Finds.number_eq {d : Directive} {numeral : Reader Int}
    (hd : d.numeral? = some numeral) {text rest : List Char} {u : Update}
    (h : d.Finds text u rest) : ∃ n, numeral text = some (n, rest) ∧ u.number? = some n := by
  -- Each field reader has a bound of its own, and the part of the stamp is wide enough for it
  cases d with
  | year =>
    cases hd
    obtain ⟨n, hfield, hu⟩ := exists_of_finds rfl h
    cases hu
    exact ⟨n, Reader.map_of_eq_some _ hfield, Update.number?_ofYear (Field.boundedRun_le hfield)⟩
  | year4 =>
    cases hd
    obtain ⟨n, hfield, hu⟩ := exists_of_finds rfl h
    cases hu
    have hlt := Field.fixedDigits_lt hfield
    exact ⟨n, Reader.map_of_eq_some _ hfield, Update.number?_ofYear (by omega)⟩
  | year2 =>
    cases hd
    obtain ⟨n, hfield, hu⟩ := exists_of_finds rfl h
    cases hu
    have hlt := Field.yearTwoDigit_bounds hfield
    exact ⟨n, Reader.map_of_eq_some _ hfield, Update.number?_ofYear (by omega)⟩
  | day =>
    cases hd
    obtain ⟨n, hfield, hu⟩ := exists_of_finds rfl h
    cases hu
    exact ⟨n, Reader.map_of_eq_some _ hfield,
      congrArg (some ∘ Int.ofNat) (toNat_uint8_ofNat (Field.shortDigits_lt hfield))⟩
  | day2 | hour | minute | second =>
    cases hd
    obtain ⟨n, hfield, hu⟩ := exists_of_finds rfl h
    cases hu
    exact ⟨n, Reader.map_of_eq_some _ hfield,
      congrArg (some ∘ Int.ofNat) (toNat_uint8_ofNat (Field.fixedDigits_lt hfield))⟩
  | unixSecond =>
    cases hd
    obtain ⟨n, hfield, hu⟩ := exists_of_finds rfl h
    exact ⟨n, Reader.map_of_eq_some _ hfield, Update.number?_ofEpochSeconds hu⟩
  | offsetColon =>
    cases hd
    obtain ⟨m, hfield, hu⟩ := exists_of_finds rfl h
    cases hu
    have hle := Field.offsetColon_natAbs_le hfield
    exact ⟨m, hfield, Update.number?_ofOffset (by omega)⟩
  | offsetCompact =>
    cases hd
    obtain ⟨m, hfield, hu⟩ := exists_of_finds rfl h
    cases hu
    have hle := Field.offsetCompact_natAbs_le hfield
    exact ⟨m, hfield, Update.number?_ofOffset (by omega)⟩
  | offsetMinutes =>
    cases hd
    obtain ⟨m, hfield, hu⟩ := exists_of_finds rfl h
    cases hu
    exact ⟨m, hfield, Update.number?_ofOffset (Field.offsetMinutes_natAbs_le hfield)⟩
  | month | month2 | monthShort | dayOfYear | zoneName | space | literal | custom => cases hd

/-! ## Patterns -/

/-- Whatever a pattern of built-in directives gathers from a text is in range, and only a year and
    an offset in minutes can be of more than a few digits. The directives store the numbers that
    they read. -/
theorem Pattern.gathers_within {p : Pattern} (hp : ∀ d ∈ p.directives, d.isCustom = false)
    (text : List Char) :
    (∀ s, p.Gathers text s → s.Within 2147483647 2147483647 ∧
      (.year ∉ p.directives → s.date.year.toInt ≤ 262142) ∧
      (.offsetMinutes ∉ p.directives → s.offsetMinutes.toInt.natAbs ≤ 6039)) ∧
    ∀ d ∈ p.directives, ∀ numeral, d.numeral? = some numeral → ∀ text rest u,
      d.Finds text u rest → ∃ n, numeral text = some (n, rest) ∧ u.number? = some n := by
  constructor
  · -- One invariant for each of the three bounds, with the others as wide as they can be
    intro s h
    have hlimit : (2147483647 : Nat) ≤ 2147483647 := Nat.le_refl _
    refine ⟨?_, ?_, ?_⟩
    · exact h.within (by decide) (by decide) fun d hd =>
        Directive.bounded_of_not_custom (hp d hd) (fun _ => hlimit) (fun _ => hlimit)
    · intro hyear
      have hbounded : ∀ d ∈ p.directives, d.Bounded 262142 2147483647 := fun d hd =>
        Directive.bounded_of_not_custom (hp d hd) (fun heq => absurd (heq ▸ hd) hyear)
          (fun _ => hlimit)
      exact (h.within (Nat.le_refl _) (by decide) hbounded).year_le
    · intro hoffset
      have hbounded : ∀ d ∈ p.directives, d.Bounded 2147483647 6039 := fun d hd =>
        Directive.bounded_of_not_custom (hp d hd) (fun _ => hlimit)
          (fun heq => absurd (heq ▸ hd) hoffset)
      exact (h.within (by decide) (Nat.le_refl _) hbounded).offset_le
  · intro d _ numeral hnumeral text rest u hfinds
    exact hfinds.number_eq hnumeral

/-- The largest offset of hours and minutes and the last second of the year 9999 are read, but no
    year of two digits behind them. -/
theorem Pattern.gathers_within_mismatch :
    let p : Pattern := ⟨[.offsetColon, .unixSecond, .literal ' ', .year2]⟩
    let s : Stamp := ⟨⟨9999, .december, 31⟩, ⟨23, 59, 59, 0⟩, -6039⟩
    (∀ d ∈ p.directives, d.isCustom = false) ∧
      p.Gathers "-99:99253402300799 6x".toList s ∧ s.Within 2147483647 2147483647 ∧
      (.year ∉ p.directives → s.date.year.toInt ≤ 262142) ∧
      (.offsetMinutes ∉ p.directives → s.offsetMinutes.toInt.natAbs ≤ 6039) :=
  have hread : Pattern.Gathers ⟨[.offsetColon, .unixSecond, .literal ' ', .year2]⟩
      "-99:99253402300799 6x".toList ⟨⟨9999, .december, 31⟩, ⟨23, 59, 59, 0⟩, -6039⟩ :=
    .inr ⟨_, rfl, rfl⟩
  ⟨by decide, hread, (Pattern.gathers_within (by decide) _).1 _ hread⟩

end TimePattern
