import Mathlib.Algebra.BigOperators.Group.List.Basic
import RequestBridge.Proofs.Path.Normal

/-! Patterns as a monoid.

A pattern that is joined from two parts depends on what remains of them once the slashes at their
ends are taken off (`Strips`), and what remains of the pattern is both remainders with one slash
between them, or the one that is not empty (`glue`). To glue remainders is associative, and the
empty one adds nothing. So patterns in normal form are a monoid (`Pattern`), and it does not matter
in which groups the parts of a path are put together (`patterns_form_monoid`). -/
namespace RequestBridge.Path

/-! ### What remains of a part -/

/-- A text is another one with slashes at its two ends, and the other one has none there. -/
structure Strips (cs core : List Char) : Prop where
  bare : Bare core
  spelled : ∃ m n, cs = List.replicate m '/' ++ core ++ List.replicate n '/'

theorem trim_append_slash (cs : List Char) : trim (cs ++ ['/']) = trim cs := by
  rw [trim_eq, trim_eq, List.dropWhile_append]
  split
  · next hnone =>
    rw [List.isEmpty_iff.mp hnone]
    rfl
  · exact List.rdropWhile_concat_pos _ _ _ rfl

theorem trim_slashes_append (m : Nat) (cs : List Char) :
    trim (List.replicate m '/' ++ cs) = trim cs := by
  induction m with
  | zero => rfl
  | succ m ih => rw [List.replicate_succ, List.cons_append, trim_slash, ih]

theorem trim_append_slashes (cs : List Char) (n : Nat) :
    trim (cs ++ List.replicate n '/') = trim cs := by
  induction n with
  | zero => rw [List.replicate_zero, List.append_nil]
  | succ n ih => rw [List.replicate_succ', ← List.append_assoc, trim_append_slash, ih]

theorem strips_trim (cs : List Char) : Strips cs (trim cs) := by
  let slash := fun c : Char => c == '/'
  let front := cs.takeWhile slash
  let back := (cs.dropWhile slash).rtakeWhile slash
  have hfront : front = List.replicate front.length '/' :=
    List.eq_replicate_of_mem fun _ hc => beq_iff_eq.mp (List.mem_takeWhile_imp (p := slash) hc)
  have hback : back = List.replicate back.length '/' :=
    List.eq_replicate_of_mem fun _ hc => beq_iff_eq.mp (List.mem_rtakeWhile_imp (p := slash) hc)
  refine ⟨bare_trim cs, front.length, back.length, ?_⟩
  rw [← hfront, ← hback, trim_eq, List.append_assoc, List.rdropWhile_append_rtakeWhile,
    List.takeWhile_append_dropWhile]

/-- The trimmed text is all that can remain. -/
theorem strips_iff {cs core : List Char} : Strips cs core ↔ trim cs = core := by
  constructor
  · rintro ⟨hbare, m, n, rfl⟩
    rw [trim_append_slashes, trim_slashes_append, trim_of_bare hbare]
  · rintro rfl
    exact strips_trim cs

theorem trim_eq_nil_iff {cs : List Char} : trim cs = [] ↔ ∀ c ∈ cs, c = '/' := by
  rw [← strips_iff]
  constructor
  · rintro ⟨_, m, n, rfl⟩ c hc
    simp only [List.append_nil, List.mem_append, List.mem_replicate] at hc
    exact hc.elim (·.2) (·.2)
  · intro h
    refine ⟨⟨nofun, nofun⟩, cs.length, 0, ?_⟩
    rw [List.append_nil, List.replicate_zero, List.append_nil]
    exact List.eq_replicate_of_mem h

/-! ### Two parts -/

/-- Two remainders with a slash between them, if there are both. -/
def glue (x y : List Char) : List Char :=
  if x = [] then y else if y = [] then x else x ++ '/' :: y

theorem nil_glue (y : List Char) : glue [] y = y := if_pos rfl

theorem glue_nil (x : List Char) : glue x [] = x := by
  by_cases hx : x = []
  · rw [hx, nil_glue]
  · rw [glue, if_neg hx, if_pos rfl]

theorem glue_of_ne_nil {x y : List Char} (hx : x ≠ []) (hy : y ≠ []) :
    glue x y = x ++ '/' :: y := by
  rw [glue, if_neg hx, if_neg hy]

theorem glue_eq_nil_iff {x y : List Char} : glue x y = [] ↔ x = [] ∧ y = [] := by
  by_cases hx : x = []
  · rw [hx, nil_glue]
    simp only [true_and]
  by_cases hy : y = []
  · rw [hy, glue_nil]
    simp only [and_true]
  · rw [glue_of_ne_nil hx hy]
    simp [hx]

theorem glue_assoc (x y z : List Char) : glue (glue x y) z = glue x (glue y z) := by
  by_cases hx : x = []
  · rw [hx, nil_glue, nil_glue]
  by_cases hy : y = []
  · rw [hy, glue_nil, nil_glue]
  by_cases hz : z = []
  · rw [hz, glue_nil, glue_nil]
  have hfront : glue x y ≠ [] := fun h => hx (glue_eq_nil_iff.mp h).1
  have hback : glue y z ≠ [] := fun h => hy (glue_eq_nil_iff.mp h).1
  rw [glue_of_ne_nil hfront hz, glue_of_ne_nil hx hback, glue_of_ne_nil hx hy,
    glue_of_ne_nil hy hz, List.append_assoc, List.cons_append]

theorem bare_glue {x y : List Char} (hx : Bare x) (hy : Bare y) : Bare (glue x y) := by
  by_cases hnx : x = []
  · rw [hnx, nil_glue]
    exact hy
  by_cases hny : y = []
  · rw [hny, glue_nil]
    exact hx
  rw [glue_of_ne_nil hnx hny]
  refine ⟨?_, ?_⟩
  · intro c hc
    rw [List.head?_append_of_ne_nil _ hnx] at hc
    exact hx.head c hc
  · intro c hc
    rw [List.getLast?_append_of_ne_nil _ (List.cons_ne_nil _ _), List.getLast?_cons_of_ne_nil hny]
      at hc
    exact hy.last c hc

theorem toList_join_glue (a b : String) :
    (join a b).toList = '/' :: glue (trim a.toList) (trim b.toList) := by
  rw [toList_join]
  by_cases ha : trim a.toList = [] <;> by_cases hb : trim b.toList = [] <;>
    simp [normal, glue, ha, hb, List.intercalate]

/-- What remains of a pattern is what remains of its parts. -/
theorem trim_join (a b : String) :
    trim (join a b).toList = glue (trim a.toList) (trim b.toList) := by
  rw [toList_join_glue, trim_slash, trim_of_bare (bare_glue (bare_trim _) (bare_trim _))]

theorem join_congr {a a' b b' : String} (ha : trim a.toList = trim a'.toList)
    (hb : trim b.toList = trim b'.toList) : join a b = join a' b' := by
  rw [← String.toList_inj, toList_join_glue, toList_join_glue, ha, hb]

theorem trim_empty_join (a : String) : trim (join "" a).toList = trim a.toList :=
  (trim_join "" a).trans (nil_glue _)

theorem join_assoc (a b c : String) : join (join a b) c = join a (join b c) := by
  rw [← String.toList_inj, toList_join_glue (join a b) c, toList_join_glue a (join b c), trim_join,
    trim_join, glue_assoc]

theorem empty_join_join (a b : String) : join "" (join a b) = join a b := by
  rw [← String.toList_inj, toList_join_glue "" (join a b), trim_join, toList_join_glue a b]
  exact congrArg _ (nil_glue _)

theorem join_join_empty (a b : String) : join (join a b) "" = join a b := by
  rw [← String.toList_inj, toList_join_glue (join a b) "", trim_join, toList_join_glue a b]
  exact congrArg _ (glue_nil _)

theorem join_eq_root_iff {a b : String} :
    join a b = "/" ↔ (∀ c ∈ a.toList, c = '/') ∧ ∀ c ∈ b.toList, c = '/' := by
  have hroot : "/".toList = '/' :: [] := rfl
  rw [← trim_eq_nil_iff, ← trim_eq_nil_iff, ← glue_eq_nil_iff, ← String.toList_inj,
    toList_join_glue, hroot, List.cons_inj_right]

/-! ### Many parts -/

/-- A pattern in normal form. -/
structure Pattern where
  text : String
  normal : join "" text = text

namespace Pattern

theorem ext {p q : Pattern} (h : p.text = q.text) : p = q := by
  obtain ⟨text, hp⟩ := p
  obtain ⟨text', hq⟩ := q
  obtain rfl : text = text' := h
  rfl

/-- The normal form of a text. -/
def of (text : String) : Pattern := ⟨join "" text, empty_join_join "" text⟩

/-- Patterns are put together by joining them, and the root adds nothing. -/
instance : Monoid Pattern where
  mul p q := ⟨join p.text q.text, empty_join_join p.text q.text⟩
  mul_assoc p q r := Pattern.ext (join_assoc p.text q.text r.text)
  one := of ""
  one_mul p := Pattern.ext ((join_congr (trim_empty_join "") rfl).trans p.normal)
  mul_one p := by
    refine Pattern.ext ((join_congr rfl (trim_empty_join "")).trans ?_)
    rw [← p.normal, join_join_empty]

theorem of_join (a b : String) : of (join a b) = of a * of b := by
  refine Pattern.ext ((empty_join_join a b).trans ?_)
  exact join_congr (trim_empty_join a).symm (trim_empty_join b).symm

theorem of_foldl (base : String) (leaves : List String) :
    of (leaves.foldl join base) = of base * (leaves.map of).prod := by
  induction leaves generalizing base with
  | nil => exact (mul_one _).symm
  | cons leaf rest ih =>
    rw [List.foldl_cons, ih, of_join, mul_assoc, List.map_cons, List.prod_cons]

end Pattern

/-- Texts in normal form are told apart by their patterns. -/
theorem eq_of_normal {a b : String} (ha : join "" a = a) (hb : join "" b = b)
    (h : Pattern.of a = Pattern.of b) : a = b :=
  ha.symm.trans ((congrArg Pattern.text h).trans hb)

/-- What is joined from a base and at least one leaf is in normal form. -/
theorem normal_foldl (base : String) {leaves : List String} (h : leaves ≠ []) :
    join "" (leaves.foldl join base) = leaves.foldl join base := by
  rw [← List.dropLast_append_getLast h, List.foldl_concat]
  exact empty_join_join _ _

/-- A way of joining the parts of a path two at a time. -/
inductive Grouping where
  | part (text : String)
  | join (above below : Grouping)

namespace Grouping

/-- The parts from left to right. -/
def parts : Grouping → List String
  | .part text => [text]
  | .join above below => above.parts ++ below.parts

def pattern : Grouping → String
  | .part text => text
  | .join above below => Path.join above.pattern below.pattern

theorem parts_ne_nil (g : Grouping) : g.parts ≠ [] := by
  induction g with
  | part text => exact List.cons_ne_nil _ _
  | join above below ih _ => exact List.append_ne_nil_of_left_ne_nil ih _

theorem of_pattern (g : Grouping) : Pattern.of g.pattern = (g.parts.map Pattern.of).prod := by
  induction g with
  | part text => exact (mul_one _).symm
  | join above below ih ih' =>
    rw [pattern, parts, Pattern.of_join, ih, ih', List.map_append, List.prod_append]

end Grouping

/-- Whatever is joined first, the parts of a path are joined as if from left to right. -/
theorem pattern_eq_foldl {g : Grouping} {base : String} {leaves : List String}
    (h : g.parts = base :: leaves) : g.pattern = leaves.foldl join base := by
  cases g with
  | part text =>
    cases h
    rfl
  | join above below =>
    have hleaves : leaves ≠ [] := by
      rintro rfl
      rcases List.append_eq_singleton_iff.mp h with ⟨hnil, _⟩ | ⟨_, hnil⟩
      · exact above.parts_ne_nil hnil
      · exact below.parts_ne_nil hnil
    refine eq_of_normal (empty_join_join _ _) (normal_foldl base hleaves) ?_
    rw [Grouping.of_pattern, h, Pattern.of_foldl, List.map_cons, List.prod_cons]

/-- The leaves of some groups, each joined by itself before it is joined to what stands above. -/
def foldGroups (base : String) (groups : List (List String)) : String :=
  groups.foldl (fun above group => join above (group.foldl join "")) base

/-- Groups whose leaves are joined by themselves first add what their leaves add. -/
theorem of_foldGroups (base : String) (groups : List (List String)) :
    Pattern.of (foldGroups base groups) = Pattern.of (groups.flatten.foldl join base) := by
  have hgroup : ∀ group : List String,
      Pattern.of (group.foldl join "") = (group.map Pattern.of).prod := by
    intro group
    rw [Pattern.of_foldl]
    exact one_mul _
  have hflat : (groups.flatten.map Pattern.of).prod =
      (groups.map fun group => (group.map Pattern.of).prod).prod := by
    rw [List.map_flatten, List.prod_flatten, List.map_map]
    rfl
  rw [foldGroups, ← List.foldl_map, Pattern.of_foldl, Pattern.of_foldl, hflat, List.map_map]
  refine congrArg (Pattern.of base * List.prod ·) (List.map_congr_left ?_)
  exact fun group _ => hgroup group

/-- If there is a leaf, or no group at all, the text is the same. Groups without any leaf bring the
base into its normal form. -/
theorem foldGroups_eq {groups : List (List String)} (h : groups.flatten = [] → groups = [])
    (base : String) : foldGroups base groups = groups.flatten.foldl join base := by
  rcases eq_or_ne groups [] with rfl | hgroups
  · rfl
  have hnormal : join "" (foldGroups base groups) = foldGroups base groups := by
    rw [foldGroups, ← List.foldl_map]
    exact normal_foldl base (mt List.map_eq_nil_iff.mp hgroups)
  exact eq_of_normal hnormal (normal_foldl base (mt h hgroups)) (of_foldGroups base groups)

/-! ### The laws -/

/-- Joining makes a monoid of the patterns in normal form. It is associative on all texts, and the
empty text adds nothing to a pattern. A join depends on what remains of its parts without the
slashes at their ends. It is a slash with the remainders after it as they are, so nothing else
stands at either end, and it is that slash alone if and only if both parts are slashes only. So a
path may be joined from its base and its leaves two at a time in any way, or group by group. What
it comes to is the same, but that groups without any leaf bring the base into its normal form. -/
theorem patterns_form_monoid :
    (∀ a b c, join (join a b) c = join a (join b c)) ∧
    (∀ a b, join "" (join a b) = join a b ∧ join (join a b) "" = join a b) ∧
    (∀ s : String, ∃! core, Strips s.toList core) ∧
    (∀ (a a' b b' : String) (x y : List Char), Strips a.toList x → Strips a'.toList x →
      Strips b.toList y → Strips b'.toList y → join a b = join a' b') ∧
    (∀ (a b : String) (x y : List Char), Strips a.toList x → Strips b.toList y →
      Bare (glue x y) ∧ (join a b).toList = '/' :: glue x y) ∧
    (∀ a b, join a b = "/" ↔ (∀ c ∈ a.toList, c = '/') ∧ ∀ c ∈ b.toList, c = '/') ∧
    (∀ (g : Grouping) (base : String) (leaves : List String), g.parts = base :: leaves →
      g.pattern = leaves.foldl join base) ∧
    (∀ (base : String) (groups : List (List String)),
      join "" (foldGroups base groups) = join "" (groups.flatten.foldl join base)) ∧
    ∀ (base : String) (groups : List (List String)), (groups.flatten = [] → groups = []) →
      foldGroups base groups = groups.flatten.foldl join base := by
  refine ⟨join_assoc, fun a b => ⟨empty_join_join a b, join_join_empty a b⟩, ?_, ?_, ?_,
    fun _ _ => join_eq_root_iff, fun _ _ _ => pattern_eq_foldl, ?_,
    fun base _ h => foldGroups_eq h base⟩
  · exact fun s => ⟨trim s.toList, strips_trim _, fun core hcore => (strips_iff.mp hcore).symm⟩
  · intro a a' b b' x y ha ha' hb hb'
    exact join_congr ((strips_iff.mp ha).trans (strips_iff.mp ha').symm)
      ((strips_iff.mp hb).trans (strips_iff.mp hb').symm)
  · rintro a b x y ha hb
    rw [← strips_iff.mp ha, ← strips_iff.mp hb]
    exact ⟨bare_glue (bare_trim _) (bare_trim _), toList_join_glue a b⟩
  · exact fun base groups => congrArg Pattern.text (of_foldGroups base groups)

/-- A path with slashes within its parts, joined in two groups of which one is a slash only. -/
theorem slashes_within_parts_stay :
    (join "//a//b/" "c/" = "/a//b/c" ∧ join "a//b" "//c" = "/a//b/c") ∧
    Grouping.pattern (.join (.part "//a//b/") (.join (.part "c/") (.part "/"))) = "/a//b/c" ∧
    foldGroups "a//b" [["c/"], ["/", ""]] = "/a//b/c" := by
  obtain ⟨-, -, -, hsame, hshape, -, htree, -, hgroups⟩ := patterns_form_monoid
  have hab : Strips "//a//b/".toList "a//b".toList := strips_iff.mpr (by decide)
  have hab' : Strips "a//b".toList "a//b".toList := strips_iff.mpr (by decide)
  have hc : Strips "c/".toList "c".toList := strips_iff.mpr (by decide)
  have hc' : Strips "//c".toList "c".toList := strips_iff.mpr (by decide)
  have hjoin : join "//a//b/" "c/" = "/a//b/c" :=
    String.toList_inj.mp ((hshape _ _ _ _ hab hc).2.trans (by decide))
  refine ⟨⟨hjoin, (hsame _ _ _ _ _ _ hab hab' hc hc').symm.trans hjoin⟩, ?_, ?_⟩
  · rw [htree _ "//a//b/" ["c/", "/"] rfl]
    decide +kernel
  · rw [hgroups _ _ (by decide)]
    decide +kernel

end RequestBridge.Path
