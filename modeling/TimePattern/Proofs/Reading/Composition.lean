import TimePattern.Proofs.Reading.Failure
import TimePattern.Proofs.Stamp.Overlay

/-!
# Reading with one pattern after the other

What a built-in directive takes and finds does not depend on what was read before it, and nothing
but its own parts of the stamp changes. Reading with two patterns is therefore reading with the
first, reading what it leaves with the second from the start, and laying what the second wrote
over what the first has found.

## Key results

- `Directive.read_overlay`: one directive changes its own parts of the stamp, in the same way
  whatever was read before
- `readFrom_eq_ok_iff` / `exists_mismatch_overlay`: so do directives one after the other, when they
  are read and when one of them does not match
- `Pattern.read_append_iff`: reading with two patterns
-/

namespace TimePattern

/-! ## One directive -/

/-- The parts of a stamp that the finding writes. -/
def Update.parts : Update → List StampPart
  | nothing => []
  | year _ => [.year]
  | month _ => [.month]
  | day _ => [.day]
  | hour _ => [.hour]
  | minute _ => [.minute]
  | second _ => [.second]
  | dateAndTime _ _ => [.year, .month, .day, .hour, .minute, .second, .nanosecond]
  | offset _ => [.offset]

/-- A finding puts into any stamp what it puts into another. -/
theorem Update.apply_eq_overlay (u : Update) (base s : Stamp) :
    u.apply s = s.overlay (u.apply base) u.parts := by
  cases u <;> rfl

namespace Directive

/-- What a directive finds concerns the parts that it writes. -/
theorem Finds.parts_eq {d : Directive} {text rest : List Char} {u : Update}
    (h : d.Finds text u rest) : u.parts = d.writes := by
  cases d with
  | unixSecond =>
    obtain ⟨n, -, hu⟩ := exists_of_finds rfl h
    -- Seconds write the whole date and time, nanoseconds included
    obtain ⟨date, time, -, rfl⟩ := Update.ofEpochSeconds_eq_ok_iff.1 hu
    rfl
  | monthShort | dayOfYear | zoneName | space | custom =>
    obtain ⟨scan, hscan, -⟩ := h
    cases hscan
  | _ =>
    obtain ⟨n, -, hu⟩ := exists_of_finds rfl h
    cases hu
    rfl

variable {d : Directive} {base : Stamp} {text : List Char}

/-- A built-in directive reads the same from any stamp, and writes its own parts of it. -/
theorem read_overlay (hd : d.isCustom = false) {r : Reading} (h : d.read base text = .ok r)
    (soFar : Stamp) : d.read soFar text = .ok ⟨soFar.overlay r.stamp d.writes, r.rest⟩ := by
  obtain ⟨u, hfinds, hstamp⟩ := exists_finds_of_read hd h
  -- The finding does not depend on the stamp, and applied to any stamp it is an overlay
  rw [hfinds.read, hstamp, ← hfinds.parts_eq, ← u.apply_eq_overlay]

/-- Where it does not match, it does so from any stamp and for the same cause. -/
theorem read_mismatch (hd : d.isCustom = false) {e : Mismatch}
    (h : d.read base text = .error (.mismatch e)) (soFar : Stamp) :
    d.read soFar text = .error (.mismatch { e with soFar }) := by
  rw [read_eq_of_not_custom hd] at h ⊢
  split at h
  · cases h
  · split at h
    · cases h
    · cases h
      simp only

end Directive

/-! ## Directives one after the other -/

section Run

variable {ds : List Directive} {text : List Char}

/-- Built-in directives read the same from any stamp, and write only their own parts of it. -/
theorem readFrom_overlay (hds : ∀ d ∈ ds, d.isCustom = false) {base : Stamp} {r : Reading}
    (h : readFrom base text ds = .ok r) (soFar : Stamp) :
    readFrom soFar text ds =
      .ok ⟨soFar.overlay r.stamp (ds.flatMap Directive.writes), r.rest⟩ := by
  induction ds generalizing base soFar text with
  | nil =>
    cases h
    simp [readFrom]
  | cons d ds ih =>
    -- The first directive changes `base`, hence any `base` for those behind it
    rw [List.forall_mem_cons] at hds
    rw [readFrom] at h
    cases hread : d.read base text with
    | error e => rw [hread] at h; cases h
    | ok found =>
      rw [hread] at h
      dsimp only at h
      -- Read from `found`, the others change only their own parts of it
      have hkept : found.stamp.overlay r.stamp (ds.flatMap Directive.writes) = r.stamp := by
        have hsame := ih hds.2 h found.stamp
        rw [h] at hsame
        exact (congrArg Reading.stamp (Except.ok.inj hsame)).symm
      rw [readFrom, Directive.read_overlay hds.1 hread soFar]
      dsimp only
      rw [ih hds.2 h, Stamp.overlay_assoc, hkept, List.flatMap_cons]

/-- Built-in directives read from one stamp what they read from another, up to the parts that
    none of them writes. -/
theorem readFrom_eq_ok_iff (hds : ∀ d ∈ ds, d.isCustom = false) (base soFar : Stamp)
    (r : Reading) :
    readFrom soFar text ds = .ok r ↔
      ∃ found, readFrom base text ds = .ok found ∧
        r = ⟨soFar.overlay found.stamp (ds.flatMap Directive.writes), found.rest⟩ := by
  constructor
  · intro h
    -- From `soFar` to `base` and back: the two readings leave the same
    have hbase := readFrom_overlay hds h base
    have hback := readFrom_overlay hds hbase soFar
    rw [h, Except.ok.injEq] at hback
    exact ⟨_, hbase, hback⟩
  · intro h
    obtain ⟨found, hfound, rfl⟩ := h
    exact readFrom_overlay hds hfound soFar

/-- A mismatch is the same from any stamp, up to the parts that the directives before it do not
    write. -/
theorem exists_mismatch_overlay (hds : ∀ d ∈ ds, d.isCustom = false) {base : Stamp}
    {e : Mismatch} (h : readFrom base text ds = .error (.mismatch e)) (soFar : Stamp) :
    ∃ k, ds[k]? = some e.directive ∧ readFrom base text (ds.take k) = .ok ⟨e.soFar, e.rest⟩ ∧
      readFrom base text (ds.take (k + 1)) = .error (.mismatch e) ∧
      readFrom soFar text ds = .error (.mismatch
        { e with soFar := soFar.overlay e.soFar ((ds.take k).flatMap Directive.writes) }) := by
  -- The directives before the failing one are read from `soFar` too, and then it fails as before
  obtain ⟨k, d, ⟨stamp, rest⟩, hd, hbefore, herror⟩ := readFrom_eq_error_iff.1 h
  obtain ⟨rfl, rfl, rfl⟩ := Directive.eq_of_read_eq_mismatch herror
  have hmem := List.mem_of_getElem? hd
  have hbefore' := readFrom_overlay (fun d hd => hds d (List.mem_of_mem_take hd)) hbefore soFar
  have herror' := Directive.read_mismatch (hds _ hmem) herror
  exact ⟨k, hd, hbefore, readFrom_take_succ_of_error hd hbefore herror,
    readFrom_eq_error_iff.2 ⟨k, _, _, hd, hbefore', herror' _⟩⟩

end Run

/-! ## Patterns -/

/-- Reading with two patterns one after the other. The second one, of built-in directives, reads
    what the first leaves as if it had begun there. What its directives write replaces what the
    first has found, and all else is the first one's; this also holds of what is reported when one
    of its directives does not match. -/
theorem Pattern.read_append_iff (p : Pattern) {q : Pattern}
    (hq : ∀ d ∈ q.directives, d.isReadable = true ∧ d.isCustom = false) (text : List Char) :
    (∀ r, (p ++ q).read text = .ok r ↔
      ∃ r₁ r₂, p.read text = .ok r₁ ∧ q.read r₁.rest = .ok r₂ ∧
        r = ⟨r₁.stamp.overlay r₂.stamp (q.directives.flatMap Directive.writes), r₂.rest⟩) ∧
    ∀ r₁ failure, p.read text = .ok r₁ → q.read r₁.rest = .error failure →
      ∃ e k, failure = .mismatch e ∧ q.directives[k]? = some e.directive ∧
        (q.take k).read r₁.rest = .ok ⟨e.soFar, e.rest⟩ ∧
        (q.take (k + 1)).read r₁.rest = .error (.mismatch e) ∧
        (p ++ q).read text = .error (.mismatch { e with
          soFar := r₁.stamp.overlay e.soFar ((q.take k).directives.flatMap Directive.writes) }) := by
  have hcustom : ∀ d ∈ q.directives, d.isCustom = false := fun d hd => (hq d hd).2
  have hboth : (p ++ q).read text =
      (p.read text).bind fun r₁ => readFrom r₁.stamp r₁.rest q.directives :=
    readFrom_append default text p.directives q.directives
  rw [hboth]
  constructor
  · intro r
    cases hp : p.read text with
    | error e => simp [Except.bind]
    | ok r₁ =>
      -- The second pattern reads from what the first found as it would from the start
      simp only [Except.bind, readFrom_eq_ok_iff hcustom default r₁.stamp, Except.ok.injEq,
        exists_and_left, exists_eq_left']
      rfl
  · intro r₁ failure hp hfailure
    rw [hp]
    -- All directives of `q` have a rule, so that the failure is a mismatch
    cases failure with
    | noRule missing => exact absurd hfailure (readFrom_ne_noRule (fun d hd => (hq d hd).1) missing)
    | mismatch e =>
      obtain ⟨k, hd, hbefore, hfail, hall⟩ := exists_mismatch_overlay hcustom hfailure r₁.stamp
      exact ⟨e, k, rfl, hd, hbefore, hfail, hall⟩

/-- The hour and the offset are read first, then seconds since the epoch and a day. The seconds
    replace the hour and the day replaces theirs; the offset is kept. -/
theorem Pattern.read_append_iff_epochSeconds :
    let p : Pattern := ⟨[.hour, .offsetMinutes]⟩
    let q : Pattern := ⟨[.literal '@', .unixSecond, .literal ' ', .day2]⟩
    (∀ d ∈ q.directives, d.isReadable = true ∧ d.isCustom = false) ∧
      (p ++ q).read "12-90@86400 07!".toList =
        .ok ⟨⟨⟨1970, .january, 7⟩, ⟨0, 0, 0, 0⟩, -90⟩, ['!']⟩ :=
  ⟨by decide, ((Pattern.read_append_iff _ (by decide) _).1 _).2
    ⟨⟨⟨default, ⟨12, 0, 0, 0⟩, -90⟩, "@86400 07!".toList⟩,
      ⟨⟨⟨1970, .january, 7⟩, ⟨0, 0, 0, 0⟩, 0⟩, ['!']⟩, rfl, rfl, rfl⟩⟩

end TimePattern
