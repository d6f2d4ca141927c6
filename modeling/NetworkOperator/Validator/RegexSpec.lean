import NetworkOperator.Validator.Regex

/-!
# Validator — what the patterns match

`Regex.Matches` says which strings a pattern matches, as RE2 defines its syntax; `Regex.rest` in
`Validator.Regex` is the matcher the model runs.  They agree:

* `Regex.mem_rest`: the suffixes `rest` leaves are exactly those after a prefix the pattern
  matches.
* `Regex.matchString_iff`: `MatchString` of `^r$` holds exactly when the whole string matches.

Both hold for patterns whose counted repetitions have their lower bound at most their upper one,
the only ones `regexp.MustCompile` compiles; the five patterns of the validator are such.
-/

namespace NetworkOperator.Validator

/-- The strings a pattern matches: a class, one character it holds; a concatenation, a match of
each part in turn; `r?`, the empty string or a match of `r`; `r{min,max}`, from `min` to `max`
matches of `r` in a row. -/
inductive Regex.Matches : Regex → List Char → Prop
  | cls {k : CharClass} {c : Char} : k.test c = true → Regex.Matches (.cls k) [c]
  | seq {r q : Regex} {u v : List Char} :
      Regex.Matches r u → Regex.Matches q v → Regex.Matches (.seq r q) (u ++ v)
  | optNone {r : Regex} : Regex.Matches (.opt r) []
  | optSome {r : Regex} {u : List Char} : Regex.Matches r u → Regex.Matches (.opt r) u
  | rep {r : Regex} {min : Nat} {max : Option Nat} (ws : List (List Char)) :
      min ≤ ws.length → (∀ m, max = some m → ws.length ≤ m) → (∀ w ∈ ws, Regex.Matches r w) →
      Regex.Matches (.rep r min max) ws.flatten

/-- Every counted repetition has its lower bound at most its upper one, as `regexp.MustCompile`
requires. -/
def Regex.wf : Regex → Bool
  | .cls _ => true
  | .seq r q => r.wf && q.wf
  | .opt r => r.wf
  | .rep r min max => r.wf && match max with
    | some max => min ≤ max
    | none => true

/-! ### The repetitions -/

section Repetition

variable {f : List Char → List (List Char)} {P : List Char → Prop}
  (hf : ∀ s t, t ∈ f s ↔ ∃ u, s = u ++ t ∧ P u)
include hf

theorem mem_repExact (n : Nat) (s t : List Char) :
    t ∈ repExact f n s ↔ ∃ ws : List (List Char), ws.length = n ∧ (∀ w ∈ ws, P w) ∧ s = ws.flatten ++ t := by
  induction n generalizing s with
  | zero => simp [repExact, eq_comm]
  | succ n ih =>
    simp only [repExact, List.mem_flatMap, hf, ih]
    constructor
    · rintro ⟨m, ⟨u, rfl, hu⟩, ws, hlen, hws, rfl⟩
      exact ⟨u :: ws, by simp [hlen], List.forall_mem_cons.mpr ⟨hu, hws⟩, by simp⟩
    · rintro ⟨_ | ⟨u, ws⟩, hlen, hws, rfl⟩
      · cases hlen
      · simp only [List.mem_cons, forall_eq_or_imp] at hws
        exact ⟨ws.flatten ++ t, ⟨u, by simp, hws.1⟩, ws, by simpa using hlen, hws.2, rfl⟩

theorem mem_repUpTo (n : Nat) (s t : List Char) :
    t ∈ repUpTo f n s ↔ ∃ ws : List (List Char), ws.length ≤ n ∧ (∀ w ∈ ws, P w) ∧ s = ws.flatten ++ t := by
  induction n generalizing s with
  | zero => simp [repUpTo, eq_comm]
  | succ n ih =>
    simp only [repUpTo, List.mem_cons, List.mem_flatMap, hf, ih]
    constructor
    · rintro (rfl | ⟨m, ⟨u, rfl, hu⟩, ws, hlen, hws, rfl⟩)
      · exact ⟨[], by simp, by simp, by simp⟩
      · exact ⟨u :: ws, by simp [hlen], List.forall_mem_cons.mpr ⟨hu, hws⟩, by simp⟩
    · rintro ⟨_ | ⟨u, ws⟩, hlen, hws, rfl⟩
      · exact .inl (by simp)
      · simp only [List.mem_cons, forall_eq_or_imp] at hws
        exact .inr ⟨ws.flatten ++ t, ⟨u, by simp, hws.1⟩, ws, by simpa using hlen, hws.2, rfl⟩

/-- The suffixes `repStar` leaves, each iteration consuming something, are those after any
number of matches, given as much fuel as the string is long. -/
theorem mem_repStar (fuel : Nat) (s t : List Char) (hfuel : s.length ≤ fuel) :
    t ∈ repStar f fuel s ↔ ∃ ws : List (List Char), (∀ w ∈ ws, P w) ∧ s = ws.flatten ++ t := by
  constructor
  · induction fuel generalizing s with
    | zero => intro h; exact ⟨[], by simp, by simpa [repStar, eq_comm] using h⟩
    | succ fuel ih =>
      simp only [repStar, List.mem_cons, List.mem_flatMap, List.mem_filter, decide_eq_true_eq]
      rintro (rfl | ⟨m, ⟨hm, hshort⟩, ht⟩)
      · exact ⟨[], by simp, by simp⟩
      · obtain ⟨u, rfl, hu⟩ := (hf _ _).mp hm
        obtain ⟨ws, hws, rfl⟩ := ih m (by omega) ht
        exact ⟨u :: ws, List.forall_mem_cons.mpr ⟨hu, hws⟩, by simp⟩
  · rintro ⟨ws, hws, rfl⟩
    -- the iterations that match the empty string leave the suffix as it was
    have hflat : ∀ ws : List (List Char), (ws.filter (!·.isEmpty)).flatten = ws.flatten := by
      intro ws
      induction ws with
      | nil => rfl
      | cons w ws ih => cases w <;> simp [List.filter_cons, ih]
    rw [← hflat] at hfuel ⊢
    have hne : ∀ w ∈ ws.filter (!·.isEmpty), w ≠ [] ∧ P w := fun w hw => by
      simp only [List.mem_filter, Bool.not_eq_true', List.isEmpty_eq_false] at hw
      exact ⟨hw.2, hws w hw.1⟩
    generalize ws.filter (!·.isEmpty) = vs at hfuel hne
    induction vs generalizing fuel with
    | nil => cases fuel <;> simp [repStar]
    | cons v vs ih =>
      obtain ⟨hv, hpv⟩ := hne v (List.mem_cons_self _ _)
      have hvlen : 0 < v.length := List.length_pos.mpr hv
      obtain ⟨fuel, rfl⟩ : ∃ k, fuel = k + 1 := ⟨fuel - 1, by simp at hfuel; omega⟩
      simp only [repStar, List.mem_cons, List.mem_flatMap, List.mem_filter, decide_eq_true_eq]
      refine .inr ⟨vs.flatten ++ t, ⟨(hf _ _).mpr ⟨v, by simp, hpv⟩, by simp; omega⟩,
        ih fuel (by simp at hfuel ⊢; omega) fun w hw => hne w (List.mem_cons_of_mem _ hw)⟩

end Repetition

/-! ### The matcher and the semantics -/

theorem Regex.matches_cls_iff (k : CharClass) (u : List Char) :
    (Regex.cls k).Matches u ↔ ∃ c, u = [c] ∧ k.test c = true :=
  ⟨fun h => by cases h with | cls hc => exact ⟨_, rfl, hc⟩, fun ⟨_, hu, hc⟩ => hu ▸ .cls hc⟩

theorem Regex.matches_seq_iff (r q : Regex) (w : List Char) :
    (Regex.seq r q).Matches w ↔ ∃ u v, w = u ++ v ∧ r.Matches u ∧ q.Matches v :=
  ⟨fun h => by cases h with | seq hu hv => exact ⟨_, _, rfl, hu, hv⟩,
    fun ⟨_, _, hw, hu, hv⟩ => hw ▸ .seq hu hv⟩

theorem Regex.matches_opt_iff (r : Regex) (u : List Char) :
    (Regex.opt r).Matches u ↔ u = [] ∨ r.Matches u :=
  ⟨fun h => by cases h with | optNone => exact .inl rfl | optSome hu => exact .inr hu,
    fun h => h.elim (fun hu => hu ▸ .optNone) .optSome⟩

theorem Regex.matches_rep_iff (r : Regex) (min : Nat) (max : Option Nat) (u : List Char) :
    (Regex.rep r min max).Matches u ↔ ∃ ws : List (List Char), min ≤ ws.length ∧
      (∀ m, max = some m → ws.length ≤ m) ∧ (∀ w ∈ ws, r.Matches w) ∧ u = ws.flatten :=
  ⟨fun h => by cases h with | rep ws hmin hmax hws => exact ⟨ws, hmin, hmax, hws, rfl⟩,
    fun ⟨ws, hmin, hmax, hws, hu⟩ => hu ▸ .rep ws hmin hmax hws⟩

/-- **The matcher is sound and complete**: the suffixes `rest` leaves are exactly those after a
prefix the pattern matches. -/
theorem Regex.mem_rest (r : Regex) (hr : r.wf = true) (s t : List Char) :
    t ∈ r.rest s ↔ ∃ u, s = u ++ t ∧ r.Matches u := by
  induction r generalizing s t with
  | cls k =>
    simp only [Regex.matches_cls_iff]
    cases s with
    | nil => simp [Regex.rest]
    | cons c s =>
      simp only [Regex.rest]
      constructor
      · intro h
        split at h
        · obtain rfl := List.mem_singleton.mp h
          exact ⟨[c], rfl, c, rfl, ‹_›⟩
        · cases h
      · rintro ⟨_, h, c', rfl, hc'⟩
        obtain ⟨rfl, rfl⟩ := List.cons.inj h
        simp [hc']
  | seq r q ihr ihq =>
    simp only [Regex.wf, Bool.and_eq_true] at hr
    simp only [Regex.rest, List.mem_flatMap, ihr hr.1, ihq hr.2, Regex.matches_seq_iff]
    constructor
    · rintro ⟨m, ⟨u, rfl, hu⟩, v, rfl, hv⟩
      exact ⟨u ++ v, by simp, u, v, rfl, hu, hv⟩
    · rintro ⟨_, rfl, u, v, rfl, hu, hv⟩
      exact ⟨v ++ t, ⟨u, by simp, hu⟩, v, rfl, hv⟩
  | opt r ih =>
    simp only [Regex.rest, List.mem_cons, ih hr, Regex.matches_opt_iff]
    constructor
    · rintro (rfl | ⟨u, rfl, hu⟩)
      · exact ⟨[], rfl, .inl rfl⟩
      · exact ⟨u, rfl, .inr hu⟩
    · rintro ⟨u, rfl, rfl | hu⟩
      · exact .inl rfl
      · exact .inr ⟨u, rfl, hu⟩
  | rep r min max ih =>
    simp only [Regex.wf, Bool.and_eq_true] at hr
    have hf := fun s t => ih hr.1 s t
    simp only [Regex.rest, List.mem_flatMap, mem_repExact hf, Regex.matches_rep_iff]
    cases max with
    | none =>
      simp only [mem_repStar hf _ _ _ le_rfl]
      constructor
      · rintro ⟨m, ⟨ws₁, hlen, hws₁, rfl⟩, ws₂, hws₂, rfl⟩
        exact ⟨_, by simp, ws₁ ++ ws₂, by simp; omega, by simp, by simp; tauto, rfl⟩
      · rintro ⟨_, rfl, ws, hmin, -, hws, rfl⟩
        refine ⟨(ws.drop min).flatten ++ t, ⟨ws.take min, by simp; omega,
          fun w hw => hws w (List.mem_of_mem_take hw), ?_⟩, ws.drop min,
          fun w hw => hws w (List.mem_of_mem_drop hw), rfl⟩
        rw [← List.append_assoc, ← List.flatten_append, List.take_append_drop]
    | some max =>
      have hle : min ≤ max := by simpa using hr.2
      simp only [mem_repUpTo hf]
      constructor
      · rintro ⟨m, ⟨ws₁, hlen, hws₁, rfl⟩, ws₂, hlen₂, hws₂, rfl⟩
        exact ⟨_, by simp, ws₁ ++ ws₂, by simp; omega, by simp; omega, by simp; tauto, rfl⟩
      · rintro ⟨_, rfl, ws, hmin, hmax, hws, rfl⟩
        have hmax := hmax max rfl
        refine ⟨(ws.drop min).flatten ++ t, ⟨ws.take min, by simp; omega,
          fun w hw => hws w (List.mem_of_mem_take hw), ?_⟩, ws.drop min, by simp; omega,
          fun w hw => hws w (List.mem_of_mem_drop hw), rfl⟩
        rw [← List.append_assoc, ← List.flatten_append, List.take_append_drop]

/-- **`MatchString` of `^r$`** holds exactly when the whole string is in the pattern's
language. -/
theorem Regex.matchString_iff (r : Regex) (hr : r.wf = true) (s : String) :
    r.matchString s = true ↔ r.Matches s.toList := by
  simp [Regex.matchString, List.elem_iff, Regex.mem_rest r hr]

/-! ### The validator's patterns -/

theorem fqdnRegexp_wf : fqdnRegexp.wf = true := rfl

theorem pKeyGUIDRegexp_wf : pKeyGUIDRegexp.wf = true := rfl

theorem versionRegexp_wf : versionRegexp.wf = true := rfl

/-- The classes a pattern takes its characters from. -/
def Regex.classes : Regex → List CharClass
  | .cls k => [k]
  | .seq r q => r.classes ++ q.classes
  | .opt r => r.classes
  | .rep r _ _ => r.classes

/-- Every character of a match is in one of the pattern's classes. -/
theorem Regex.Matches.chars {r : Regex} {u : List Char} (h : r.Matches u) :
    ∀ c ∈ u, ∃ k ∈ r.classes, k.test c = true := by
  induction h with
  | cls hc => simpa [Regex.classes] using hc
  | seq _ _ ihu ihv =>
    intro c hc
    rcases List.mem_append.mp hc with hc | hc
    · obtain ⟨k, hk, hkc⟩ := ihu c hc
      exact ⟨k, List.mem_append_left _ hk, hkc⟩
    · obtain ⟨k, hk, hkc⟩ := ihv c hc
      exact ⟨k, List.mem_append_right _ hk, hkc⟩
  | optNone => simp
  | optSome _ ih => exact ih
  | rep ws _ _ _ ih =>
    intro c hc
    obtain ⟨w, hw, hcw⟩ := List.mem_flatten.mp hc
    exact ih w hw c hcw

end NetworkOperator.Validator
