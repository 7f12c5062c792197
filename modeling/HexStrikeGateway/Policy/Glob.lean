import HexStrikeGateway.Policy.Engine

/-!
# The matchers against glob patterns

`matchCaller` and `matchPattern` read a pattern with a star as a glob, but they look for the star
only at the ends: a leading `*` (for `matchPattern`) is a suffix test, a trailing `*` a prefix
test, and any other star is a literal character. `GlobMatch` is what a glob means, every `*`
standing for any string; `Glob p` is the set of strings `p` matches so.

Both matchers are sound for every pattern: they never admit a string outside the glob
(`matchPattern_sound`, `matchCaller_sound`). They are complete on the patterns they were written
for, with at most one star, at an end they test (`matchPattern_complete`,
`matchCaller_complete`). On a pattern such as `*.a.*` or `a*b` they admit less than the glob.
-/

namespace HexStrikeGateway.Policy

/-! ## Globs -/

/-- `GlobMatch p v`: the pattern `p` matches `v` when each `*` of `p` stands for any string,
possibly empty, and every other character for itself. -/
inductive GlobMatch : List Char → List Char → Prop
  | nil : GlobMatch [] []
  | char {c : Char} {p v : List Char} : c ≠ '*' → GlobMatch p v → GlobMatch (c :: p) (c :: v)
  /-- The star stops matching. -/
  | starEnd {p v : List Char} : GlobMatch p v → GlobMatch ('*' :: p) v
  /-- The star takes one more character. -/
  | starTake {p v : List Char} (c : Char) : GlobMatch ('*' :: p) v → GlobMatch ('*' :: p) (c :: v)

def Glob (p : String) : Set String := {v | GlobMatch p.toList v.toList}

namespace GlobMatch

/-- Every pattern matches itself, a star taking the star. -/
theorem refl : ∀ p : List Char, GlobMatch p p
  | [] => .nil
  | c :: p => by
    by_cases hc : c = '*'
    · subst hc
      exact .starTake _ (.starEnd (refl p))
    · exact .char hc (refl p)

theorem star_any : ∀ v : List Char, GlobMatch ['*'] v
  | [] => .starEnd .nil
  | c :: v => .starTake c (star_any v)

theorem append {p v q w : List Char} (h₁ : GlobMatch p v) (h₂ : GlobMatch q w) :
    GlobMatch (p ++ q) (v ++ w) := by
  induction h₁ with
  | nil => exact h₂
  | char hc _ ih => exact .char hc ih
  | starEnd _ ih => exact .starEnd ih
  | starTake c _ ih => exact .starTake c ih

theorem nil_iff {v : List Char} : GlobMatch [] v ↔ v = [] :=
  ⟨fun h => by cases h; rfl, fun h => h ▸ .nil⟩

/-- A star-free part of a pattern matches only itself. -/
theorem starFree_append_iff {x : List Char} (hx : '*' ∉ x) {q v : List Char} :
    GlobMatch (x ++ q) v ↔ ∃ w, v = x ++ w ∧ GlobMatch q w := by
  induction x generalizing v with
  | nil => simp
  | cons c x ih =>
    have hc : c ≠ '*' := fun h => hx (h ▸ List.mem_cons_self _ _)
    have ih := @ih (fun h => hx (List.mem_cons_of_mem _ h))
    constructor
    · intro h
      cases h with
      | char _ h =>
        obtain ⟨w, rfl, hw⟩ := ih.1 h
        exact ⟨w, rfl, hw⟩
      | starEnd _ => exact absurd rfl hc
      | starTake _ _ => exact absurd rfl hc
    · rintro ⟨w, rfl, hw⟩
      exact .char hc (ih.2 ⟨w, rfl, hw⟩)

theorem starFree_iff {x v : List Char} (hx : '*' ∉ x) : GlobMatch x v ↔ v = x := by
  simpa [nil_iff] using @starFree_append_iff x hx [] v

/-- A leading star takes some prefix of the string. -/
theorem star_cons_iff {q v : List Char} :
    GlobMatch ('*' :: q) v ↔ ∃ u w, v = u ++ w ∧ GlobMatch q w := by
  constructor
  · intro h
    generalize hp : '*' :: q = p at h
    induction h with
    | nil => cases hp
    | char hc _ _ => cases hp; exact absurd rfl hc
    | starEnd h _ => cases hp; exact ⟨[], _, rfl, h⟩
    | starTake c _ ih =>
      obtain ⟨u, w, rfl, hw⟩ := ih hp
      exact ⟨c :: u, w, rfl, hw⟩
  · rintro ⟨u, w, rfl, hw⟩
    exact (star_any u).append hw

end GlobMatch

/-! ## The string tests the matchers make -/

theorem hasPrefix_iff {s p : String} : hasPrefix s p = true ↔ ∃ u, s.toList = p.toList ++ u := by
  rw [hasPrefix, List.isPrefixOf_iff_prefix]
  exact exists_congr fun _ => eq_comm

theorem hasSuffix_iff {s p : String} : hasSuffix s p = true ↔ ∃ u, s.toList = u ++ p.toList := by
  rw [hasSuffix, List.isSuffixOf_iff_suffix]
  exact exists_congr fun _ => eq_comm

theorem eq_star_iff {p : String} : p = "*" ↔ p.toList = ['*'] :=
  String.ext_iff

theorem trimPrefix_star {p : String} {q : List Char} (h : p.toList = '*' :: q) :
    (trimPrefix p "*").toList = q := by
  have hp : hasPrefix p "*" = true := hasPrefix_iff.2 ⟨q, h⟩
  simp only [trimPrefix, hp, ↓reduceIte, h]
  rfl

theorem trimSuffix_star {p : String} {q : List Char} (h : p.toList = q ++ ['*']) :
    (trimSuffix p "*").toList = q := by
  have hp : hasSuffix p "*" = true := hasSuffix_iff.2 ⟨q, h⟩
  have hl : p.length = q.length + 1 := by
    rw [show p.length = p.toList.length from rfl, h, List.length_append]; rfl
  simp only [trimSuffix, hp, ↓reduceIte, hl]
  show (p.toList.take (q.length + 1 - 1)) = q
  rw [h, Nat.add_sub_cancel, List.take_left]

/-! ## Soundness: the matchers admit no more than the glob -/

/-- A leading star and the rest matched as a suffix. -/
theorem glob_of_suffix {p v : String} {q : List Char} (hp : p.toList = '*' :: q)
    (hv : hasSuffix v ⟨q⟩ = true) : v ∈ Glob p := by
  obtain ⟨u, hu⟩ := hasSuffix_iff.1 hv
  show GlobMatch p.toList v.toList
  rw [hp, hu]
  exact GlobMatch.star_cons_iff.2 ⟨u, q, rfl, .refl q⟩

/-- A trailing star and the rest matched as a prefix. -/
theorem glob_of_prefix {p v : String} {q : List Char} (hp : p.toList = q ++ ['*'])
    (hv : hasPrefix v ⟨q⟩ = true) : v ∈ Glob p := by
  obtain ⟨u, hu⟩ := hasPrefix_iff.1 hv
  show GlobMatch p.toList v.toList
  rw [hp, hu]
  exact (GlobMatch.refl q).append (.star_any u)

theorem glob_self (p : String) : p ∈ Glob p := GlobMatch.refl p.toList

theorem glob_star (v : String) : v ∈ Glob "*" := GlobMatch.star_any v.toList

theorem matchPattern_sound {p v : String} (h : matchPattern p v = true) : v ∈ Glob p := by
  unfold matchPattern at h
  split_ifs at h with h₁ h₂ h₃
  · exact h₁ ▸ glob_star v
  · obtain ⟨q, hq⟩ := hasPrefix_iff.1 h₂
    exact glob_of_suffix hq (by rwa [← trimPrefix_star hq])
  · obtain ⟨q, hq⟩ := hasSuffix_iff.1 h₃
    exact glob_of_prefix hq (by rwa [← trimSuffix_star hq])
  · exact (of_decide_eq_true h) ▸ glob_self p

theorem matchCaller_sound {p v : String} (h : matchCaller p v = true) : v ∈ Glob p := by
  unfold matchCaller at h
  split_ifs at h with h₁ h₂
  · exact h₁ ▸ glob_star v
  · obtain ⟨q, hq⟩ := hasSuffix_iff.1 h₂
    exact glob_of_prefix hq (by rwa [← trimSuffix_star hq])
  · exact (of_decide_eq_true h) ▸ glob_self p

/-! ## Completeness on one-star patterns -/

theorem headStar_shape {l : List Char} (hc : l.count '*' ≤ 1) (hh : l.head? = some '*') :
    ∃ q, l = '*' :: q ∧ '*' ∉ q := by
  obtain ⟨q, rfl⟩ := List.head?_eq_some_iff.1 hh
  rw [List.count_cons_self] at hc
  exact ⟨q, rfl, List.count_eq_zero.1 (by omega)⟩

theorem lastStar_shape {l : List Char} (hc : l.count '*' ≤ 1) (hl : l.getLast? = some '*') :
    ∃ q, l = q ++ ['*'] ∧ '*' ∉ q := by
  obtain ⟨q, rfl⟩ := List.getLast?_eq_some_iff.1 hl
  rw [List.count_append, List.count_singleton_self] at hc
  exact ⟨q, rfl, List.count_eq_zero.1 (by omega)⟩

/-- A pattern that does not start with a star is neither `*` nor has a star prefix. -/
theorem tests_of_head_ne_star {p : String} (h : p.toList.head? ≠ some '*') :
    p ≠ "*" ∧ hasPrefix p "*" = false := by
  refine ⟨fun hp => h (by rw [eq_star_iff.1 hp]; rfl), Bool.eq_false_iff.2 fun hs => ?_⟩
  obtain ⟨u, hu⟩ := hasPrefix_iff.1 hs
  exact h (by rw [hu]; rfl)

theorem hasSuffix_star_eq_false {p : String} (h : p.toList.getLast? ≠ some '*') :
    hasSuffix p "*" = false := by
  refine Bool.eq_false_iff.2 fun hs => ?_
  obtain ⟨u, hu⟩ := hasSuffix_iff.1 hs
  exact h (List.getLast?_eq_some_iff.2 ⟨u, hu⟩)

/-- A star-free pattern matches as a glob only itself, and both matchers take it literally. -/
theorem starFree_tests {p : String} (hp : '*' ∉ p.toList) :
    p ≠ "*" ∧ hasPrefix p "*" = false ∧ hasSuffix p "*" = false :=
  have hh : p.toList.head? ≠ some '*' := fun h => hp (List.mem_of_mem_head? h)
  have hl : p.toList.getLast? ≠ some '*' := fun h => hp (List.mem_of_mem_getLast? h)
  ⟨(tests_of_head_ne_star hh).1, (tests_of_head_ne_star hh).2, hasSuffix_star_eq_false hl⟩

theorem eq_of_glob_starFree {p v : String} (hp : '*' ∉ p.toList) (hv : v ∈ Glob p) : v = p :=
  String.ext_iff.2 ((GlobMatch.starFree_iff hp).1 hv)

/-- Under a trailing star, whatever the glob matches starts with the rest of the pattern. -/
theorem hasPrefix_trimSuffix_of_glob {p v : String} {q : List Char} (hq : p.toList = q ++ ['*'])
    (hfree : '*' ∉ q) (hv : v ∈ Glob p) : hasPrefix v (trimSuffix p "*") = true := by
  have hv : GlobMatch (q ++ ['*']) v.toList := hq ▸ hv
  obtain ⟨w, hw, -⟩ := (GlobMatch.starFree_append_iff hfree).1 hv
  rw [hasPrefix_iff, trimSuffix_star hq]
  exact ⟨w, hw⟩

/-- Under a leading star, whatever the glob matches ends with the rest of the pattern. -/
theorem hasSuffix_trimPrefix_of_glob {p v : String} {q : List Char} (hq : p.toList = '*' :: q)
    (hfree : '*' ∉ q) (hv : v ∈ Glob p) : hasSuffix v (trimPrefix p "*") = true := by
  have hv : GlobMatch ('*' :: q) v.toList := hq ▸ hv
  obtain ⟨u, w, hu, hw⟩ := GlobMatch.star_cons_iff.1 hv
  rw [hasSuffix_iff, trimPrefix_star hq, ← (GlobMatch.starFree_iff hfree).1 hw]
  exact ⟨u, hu⟩

theorem matchPattern_complete {p v : String} (hc : p.toList.count '*' ≤ 1)
    (hpos : '*' ∈ p.toList → p.toList.head? = some '*' ∨ p.toList.getLast? = some '*')
    (hv : v ∈ Glob p) : matchPattern p v = true := by
  by_cases hm : '*' ∈ p.toList
  · rcases hpos hm with hh | hl
    · -- a leading star: `v` ends with the rest
      obtain ⟨q, hq, hfree⟩ := headStar_shape hc hh
      have hpre : hasPrefix p "*" = true := hasPrefix_iff.2 ⟨q, hq⟩
      simp [matchPattern, hpre, hasSuffix_trimPrefix_of_glob hq hfree hv]
    · -- a trailing star: `v` starts with the rest, and `*` is the only pattern with both
      obtain ⟨q, hq, hfree⟩ := lastStar_shape hc hl
      cases q with
      | nil => simp [matchPattern, eq_star_iff.2 hq]
      | cons c q =>
        have hc : p.toList.head? ≠ some '*' := by
          rw [hq]
          exact fun h => hfree (Option.some.inj h ▸ List.mem_cons_self c q)
        obtain ⟨h₁, h₂⟩ := tests_of_head_ne_star hc
        have hsuf : hasSuffix p "*" = true := hasSuffix_iff.2 ⟨_, hq⟩
        simp [matchPattern, h₁, h₂, hsuf, hasPrefix_trimSuffix_of_glob hq hfree hv]
  · obtain ⟨h₁, h₂, h₃⟩ := starFree_tests hm
    simp [matchPattern, h₁, h₂, h₃, eq_of_glob_starFree hm hv]

theorem matchCaller_complete {p v : String} (hc : p.toList.count '*' ≤ 1)
    (hpos : '*' ∈ p.toList → p.toList.getLast? = some '*') (hv : v ∈ Glob p) :
    matchCaller p v = true := by
  by_cases hm : '*' ∈ p.toList
  · obtain ⟨q, hq, hfree⟩ := lastStar_shape hc (hpos hm)
    have hsuf : hasSuffix p "*" = true := hasSuffix_iff.2 ⟨q, hq⟩
    simp [matchCaller, hsuf, hasPrefix_trimSuffix_of_glob hq hfree hv]
  · obtain ⟨h₁, -, h₃⟩ := starFree_tests hm
    simp [matchCaller, h₁, h₃, eq_of_glob_starFree hm hv]

/-- **The matchers against the glob.** Neither matcher admits a string outside the glob of its
pattern, and each admits the whole glob of a pattern with at most one star at an end it tests:
first or last for `matchPattern`, last for `matchCaller`. -/
theorem matchers_within_glob (p v : String) :
    (matchPattern p v = true → v ∈ Glob p) ∧
    (matchCaller p v = true → v ∈ Glob p) ∧
    (p.toList.count '*' ≤ 1 →
      ('*' ∈ p.toList → p.toList.head? = some '*' ∨ p.toList.getLast? = some '*') →
      v ∈ Glob p → matchPattern p v = true) ∧
    (p.toList.count '*' ≤ 1 → ('*' ∈ p.toList → p.toList.getLast? = some '*') →
      v ∈ Glob p → matchCaller p v = true) :=
  ⟨matchPattern_sound, matchCaller_sound, matchPattern_complete, matchCaller_complete⟩

end HexStrikeGateway.Policy
