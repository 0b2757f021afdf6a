import ProofDriver.Proofs.Outcome
import ProofDriver.Sorting.Adaptive
/-!
# Sorting with comparisons that fail

The sort by runs compares elements of its list with one another and makes no others up. So it fails
only as one of these comparisons does, and never where all of them can be made; what it returns are
elements of the list. Both travel together through the searches, the merges and the stack of runs.
Where the comparisons come from a total order, the sorted list does not tell what order the elements
had.
-/

namespace Except

variable {ε α β : Type} {P P' : ε → Prop} {Q Q' : α → Prop} {R : β → Prop} {x : Except ε α}

def Meets (P : ε → Prop) (Q : α → Prop) : Except ε α → Prop
  | .error e => P e
  | .ok a => Q a

theorem Meets.imp (hx : x.Meets P Q) (weaker : ∀ a, Q a → Q' a) : x.Meets P Q' := by
  cases x with
  | error e => exact hx
  | ok a => exact weaker a hx

theorem Meets.imp_error (hx : x.Meets P Q) (weaker : ∀ e, P e → P' e) : x.Meets P' Q := by
  cases x with
  | error e => exact weaker e hx
  | ok a => exact hx

theorem Meets.bind {f : α → Except ε β} (hx : x.Meets P Q) (hf : ∀ a, Q a → (f a).Meets P R) :
    (x >>= f).Meets P R := by
  cases x with
  | error e => exact hx
  | ok a => exact hf a hx

theorem Meets.map {f : α → β} (hx : x.Meets P Q) (hf : ∀ a, Q a → R (f a)) :
    (x.map f).Meets P R := by
  cases x with
  | error e => exact hx
  | ok a => exact hf a hx

theorem Meets.error {e : ε} (hx : x.Meets P Q) (failed : x = .error e) : P e := by
  subst failed
  exact hx

theorem Meets.ok {a : α} (hx : x.Meets P Q) (returned : x = .ok a) : Q a := by
  subst returned
  exact hx

end Except

namespace ProofDriver.Sorting

open Except (Meets)

variable {α ε : Type} {P : ε → Prop} {S : α → Prop}

/-! ## Searches -/

section Search

variable {test : α → Except ε Bool} {xs : List α}

theorem meets_bisect (later : Bool) (tests : ∀ x ∈ xs, (test x).Meets P fun _ => True)
    (low high : Nat) : (bisect test later xs low high).Meets P fun _ => True := by
  fun_induction bisect test later xs low high with
  | case1 | case5 => trivial
  | case2 low high inside middle x here e failed =>
    exact (tests x (List.mem_of_getElem? here)).error failed
  | case3 low high inside middle x here passed ih | case4 low high inside middle x here passed ih =>
    exact ih

theorem meets_bounds (tests : ∀ x ∈ xs, (test x).Meets P fun _ => True) (passed next : Nat) :
    (bounds test xs passed next).Meets P fun _ => True := by
  fun_induction bounds test xs passed next with
  | case1 | case4 | case5 => trivial
  | case2 passed next inside x here e failed =>
    exact (tests x (List.mem_of_getElem? here)).error failed
  | case3 passed next inside x here met ih => exact ih

theorem meets_gallop (later : Bool) (tests : ∀ x ∈ xs, (test x).Meets P fun _ => True) :
    (gallop test later xs).Meets P fun _ => True := by
  unfold gallop
  cases xs with
  | nil => trivial
  | cons x rest =>
    refine (tests x List.mem_cons_self).bind fun passed _ => ?_
    split
    · exact (meets_bounds tests 0 1).bind fun _ _ => meets_bisect later tests _ _
    · trivial

end Search

/-! ## Merges -/

variable {precedes : α → α → Except ε Bool}

def Compares (P : ε → Prop) (S : α → Prop) (precedes : α → α → Except ε Bool) : Prop :=
  ∀ a b, S a → S b → (precedes a b).Meets P fun _ => True

theorem Compares.test (compares : Compares P S precedes) {b : α} (hb : S b) (f : Bool → Bool)
    {xs : List α} (hxs : ∀ x ∈ xs, S x) :
    ∀ x ∈ xs, ((precedes b x).map f).Meets P fun _ => True :=
  fun x mem => (compares b x hb (hxs x mem)).map fun _ _ => trivial

namespace Merging

/-- All elements of a merge are in `S`. -/
structure Among (S : α → Prop) (m : Merging α) : Prop where
  placed : ∀ x ∈ m.placed, S x
  left : ∀ x ∈ m.left, S x
  right : ∀ x ∈ m.right, S x

variable {m : Merging α}

theorem Among.moveLeft (among : m.Among S) (k : Nat) : (m.moveLeft k).Among S where
  placed x mem := by
    rcases List.mem_append.mp mem with moved | before
    · exact among.left x (List.mem_of_mem_take (List.mem_reverse.mp moved))
    · exact among.placed x before
  left x mem := among.left x (List.mem_of_mem_drop mem)
  right := among.right

theorem Among.moveRight (among : m.Among S) (k : Nat) : (m.moveRight k).Among S where
  placed x mem := by
    rcases List.mem_append.mp mem with moved | before
    · exact among.right x (List.mem_of_mem_take (List.mem_reverse.mp moved))
    · exact among.placed x before
  left := among.left
  right x mem := among.right x (List.mem_of_mem_drop mem)

theorem Among.of_patience (among : m.Among S) (patience : Nat) :
    Among S { m with patience } :=
  ⟨among.placed, among.left, among.right⟩

theorem Among.mem_toList (among : m.Among S) : ∀ x ∈ m.toList, S x := by
  intro x mem
  have somewhere : x ∈ m.placed ∨ x ∈ m.left ∨ x ∈ m.right := by
    unfold toList leading waiting at mem
    split at mem
    · simp only [List.mem_append, List.mem_reverse] at mem
      grind
    · simp only [List.mem_append, List.mem_reverse] at mem
      grind
  rcases somewhere with placed | left | right
  · exact among.placed x placed
  · exact among.left x left
  · exact among.right x right

theorem meets_searchLeft (compares : Compares P S precedes) (among : m.Among S) :
    (searchLeft precedes m).Meets P fun r => r.2.Among S := by
  unfold searchLeft
  cases right : m.right with
  | nil => exact among
  | cons b rest =>
    have hb : S b := among.right b (right ▸ List.mem_cons_self)
    refine (meets_gallop _ (compares.test hb _ among.left)).bind fun k _ => ?_
    show Among S (ite _ _ _)
    split
    · exact among.moveLeft k
    · exact (among.moveLeft k).moveRight 1

theorem meets_searchRight (compares : Compares P S precedes) (among : m.Among S) :
    (searchRight precedes m).Meets P fun r => r.2.Among S := by
  unfold searchRight
  cases left : m.left with
  | nil => exact among
  | cons a rest =>
    have ha : S a := among.left a (left ▸ List.mem_cons_self)
    have tests : ∀ b ∈ m.right, ((precedes b a).map (· == m.fromFront)).Meets P fun _ => True :=
      fun b mem => (compares b a (among.right b mem) ha).map fun _ _ => trivial
    refine (meets_gallop _ tests).bind fun k _ => ?_
    show Among S (ite _ _ _)
    split
    · exact among.moveRight k
    · exact (among.moveRight k).moveLeft 1

theorem meets_singleStep (compares : Compares P S precedes) (leftWins rightWins : Nat)
    (among : m.Among S) :
    (singleStep precedes leftWins rightWins m).Meets P fun r => r.2.Among S := by
  unfold singleStep
  split
  · rename_i a _ b _ left right
    have ha : S a := among.left a (left ▸ List.mem_cons_self)
    have hb : S b := among.right b (right ▸ List.mem_cons_self)
    refine (compares b a hb ha).bind fun before _ => ?_
    split
    rename_i wins pace next moved
    show Among S next
    split at moved <;> cases moved
    · exact among.moveRight 1
    · exact among.moveLeft 1
  · exact among

theorem meets_searchStep (compares : Compares P S precedes) (again : Bool) (among : m.Among S) :
    (searchStep precedes again m).Meets P fun r => r.2.Among S := by
  unfold searchStep
  refine (meets_searchLeft compares (among.of_patience _)).bind fun (wins, m₁) among₁ => ?_
  dsimp only
  split
  · exact among₁
  · refine (meets_searchRight compares among₁).bind fun (wins', m₂) among₂ => ?_
    dsimp only
    split
    · exact among₂
    · exact among₂.of_patience _

theorem meets_run (compares : Compares P S precedes) (steps : Nat) (pace : Pace)
    (among : m.Among S) : (run precedes steps pace m).Meets P (Among S) := by
  induction steps generalizing pace m with
  | zero => exact among
  | succ steps ih =>
    unfold run
    split
    · exact among
    · cases pace with
      | single leftWins rightWins =>
        exact (meets_singleStep compares leftWins rightWins among).bind fun _ => ih _
      | search again => exact (meets_searchStep compares again among).bind fun _ => ih _

end Merging

theorem meets_merge (compares : Compares P S precedes) (patience : Nat) {left right : List α}
    (hleft : ∀ x ∈ left, S x) (hright : ∀ x ∈ right, S x) :
    (merge precedes patience left right).Meets P fun r => ∀ x ∈ r.1, S x := by
  unfold merge
  cases right with
  | nil => exact hleft
  | cons b rest =>
    have hb : S b := hright b List.mem_cons_self
    refine (meets_gallop true (compares.test hb _ hleft)).bind fun k _ => ?_
    have before : ∀ x ∈ left.take k, S x := fun x mem => hleft x (List.mem_of_mem_take mem)
    have middle : ∀ x ∈ left.drop k, S x := fun x mem => hleft x (List.mem_of_mem_drop mem)
    dsimp only
    split
    · exact List.forall_mem_append.mpr ⟨before, hright⟩
    · rename_i a last
      have ha : S a := middle a (List.mem_of_getLast? last)
      have tests : ∀ x ∈ (b :: rest).reverse, ((precedes x a).map (!·)).Meets P fun _ => True :=
        fun x mem => (compares x a (hright x (List.mem_reverse.mp mem)) ha).map fun _ _ => trivial
      refine (meets_gallop false tests).bind fun j _ => ?_
      generalize (b :: rest).length - j = kept
      have after : ∀ x ∈ (b :: rest).drop kept, S x :=
        fun x mem => hright x (List.mem_of_mem_drop mem)
      have others : ∀ x ∈ (b :: rest).take kept, S x :=
        fun x mem => hright x (List.mem_of_mem_take mem)
      split
      · exact List.forall_mem_append.mpr ⟨List.forall_mem_append.mpr ⟨before, middle⟩, after⟩
      · -- The first element to go is known before the run of the merge, at either end.
        refine (Merging.meets_run compares _ _ ?_).bind fun m among =>
          List.forall_mem_append.mpr
            ⟨List.forall_mem_append.mpr ⟨before, among.mem_toList⟩, after⟩
        split
        · exact Merging.Among.moveRight ⟨fun x mem => (by cases mem), middle, others⟩ 1
        · exact Merging.Among.moveLeft ⟨fun x mem => (by cases mem),
            fun x mem => middle x (List.mem_reverse.mp mem),
            fun x mem => others x (List.mem_reverse.mp mem)⟩ 1

/-! ## Runs -/

def Splits (S : α → Prop) (parts : List α × List α) : Prop :=
  (∀ x ∈ parts.1, S x) ∧ ∀ x ∈ parts.2, S x

theorem meets_climb (compares : Compares P S precedes) (falling : Bool) {run rest : List α}
    {last : α} (hrun : ∀ x ∈ run, S x) (hlast : S last) (hrest : ∀ x ∈ rest, S x) :
    (climb precedes falling run last rest).Meets P (Splits S) := by
  induction rest generalizing run last with
  | nil => exact ⟨hrun, hrest⟩
  | cons x rest ih =>
    obtain ⟨hx, hrest'⟩ := List.forall_mem_cons.mp hrest
    unfold climb
    split
    · rename_i e failed
      exact (compares x last hx hlast).error failed
    · split
      · exact ih (List.forall_mem_cons.mpr ⟨hx, hrun⟩) hx hrest'
      · exact ⟨hrun, hrest⟩

theorem meets_naturalRun (compares : Compares P S precedes) {xs : List α} (hxs : ∀ x ∈ xs, S x) :
    (naturalRun precedes xs).Meets P (Splits S) := by
  unfold naturalRun
  split
  · rename_i first second rest
    obtain ⟨hfirst, hsecond, hrest⟩ : S first ∧ S second ∧ ∀ x ∈ rest, S x := by
      simpa only [List.forall_mem_cons] using hxs
    have pair : ∀ x ∈ [second, first], S x := by
      simpa only [List.forall_mem_cons] using
        And.intro hsecond ⟨hfirst, fun x mem => by cases mem⟩
    refine (compares second first hsecond hfirst).bind fun falling _ => ?_
    refine (meets_climb compares falling pair hsecond hrest).bind fun (run, rest') found => ?_
    refine ⟨?_, found.2⟩
    dsimp only
    split
    · exact found.1
    · exact fun x mem => found.1 x (List.mem_reverse.mp mem)
  · exact ⟨hxs, fun x mem => by cases mem⟩

theorem meets_insertInto (compares : Compares P S precedes) {run : List α} {x : α}
    (hrun : ∀ y ∈ run, S y) (hx : S x) :
    (insertInto precedes run x).Meets P fun run' => ∀ y ∈ run', S y := by
  refine (meets_bisect true (compares.test hx _ hrun) _ _).bind fun i _ => ?_
  refine List.forall_mem_append.mpr ⟨fun y mem => hrun y (List.mem_of_mem_take mem), ?_⟩
  exact List.forall_mem_cons.mpr ⟨hx, fun y mem => hrun y (List.mem_of_mem_drop mem)⟩

theorem meets_insertAll (compares : Compares P S precedes) {run xs : List α}
    (hrun : ∀ y ∈ run, S y) (hxs : ∀ x ∈ xs, S x) :
    (xs.foldlM (insertInto precedes) run).Meets P fun run' => ∀ y ∈ run', S y := by
  induction xs generalizing run with
  | nil => exact hrun
  | cons x xs ih =>
    obtain ⟨hx, hxs⟩ := List.forall_mem_cons.mp hxs
    rw [List.foldlM_cons]
    exact (meets_insertInto compares hrun hx).bind fun run' hrun' => ih hrun' hxs

theorem meets_nextRun (compares : Compares P S precedes) (least : Nat) {xs : List α}
    (hxs : ∀ x ∈ xs, S x) : (nextRun precedes least xs).Meets P (Splits S) := by
  refine (meets_naturalRun compares hxs).bind fun (run, rest) found => ?_
  refine (meets_insertAll compares found.1 fun x mem =>
    found.2 x (List.mem_of_mem_take mem)).bind fun run' hrun' => ?_
  exact ⟨hrun', fun x mem => found.2 x (List.mem_of_mem_drop mem)⟩

/-! ## The stack of runs -/

def Stacked (S : α → Prop) (runs : List (Run α)) : Prop :=
  ∀ run ∈ runs, ∀ x ∈ run.items, S x

theorem stacked_cons {run : Run α} {runs : List (Run α)} :
    Stacked S (run :: runs) ↔ (∀ x ∈ run.items, S x) ∧ Stacked S runs :=
  List.forall_mem_cons

theorem meets_settle (compares : Compares P S precedes) (depth patience : Nat)
    {runs : List (Run α)} (stacked : Stacked S runs) :
    (settle precedes depth patience runs).Meets P fun pending => Stacked S pending.runs := by
  fun_induction settle precedes depth patience runs with
  | case1 patience last previous earlier deeper ih =>
    obtain ⟨hlast, hprevious, hearlier⟩ := (by simpa only [stacked_cons] using stacked)
    refine (meets_merge compares patience hprevious hlast).bind fun (items, patience) hitems => ?_
    exact ih items patience (stacked_cons.mpr ⟨hitems, hearlier⟩)
  | case2 | case3 =>
    obtain ⟨hlast, others⟩ := stacked_cons.mp stacked
    exact stacked_cons.mpr ⟨hlast, others⟩
  | case4 => exact stacked

theorem meets_push (compares : Compares P S precedes) (total : Nat) {pending : Pending α}
    {items : List α} (stacked : Stacked S pending.runs) (hitems : ∀ x ∈ items, S x) :
    (pending.push precedes total items).Meets P fun pending' => Stacked S pending'.runs := by
  unfold Pending.push
  split
  · exact stacked_cons.mpr ⟨hitems, fun run mem => by cases mem⟩
  · exact (meets_settle compares _ _ stacked).bind fun settled stacked' =>
      stacked_cons.mpr ⟨hitems, stacked'⟩

theorem meets_gather (compares : Compares P S precedes) (total steps : Nat) {pending : Pending α}
    {xs : List α} (stacked : Stacked S pending.runs) (hxs : ∀ x ∈ xs, S x) :
    (gather precedes total steps pending xs).Meets P fun pending' =>
      Stacked S pending'.runs := by
  induction steps generalizing pending xs with
  | zero => exact stacked
  | succ steps ih =>
    cases xs with
    | nil => exact stacked
    | cons x rest =>
      refine (meets_nextRun compares _ hxs).bind fun (items, rest') found => ?_
      exact (meets_push compares total stacked found.1).bind fun pending' stacked' =>
        ih stacked' found.2

theorem meets_mergeAll (compares : Compares P S precedes) (patience : Nat) {runs : List (Run α)}
    (stacked : Stacked S runs) :
    (mergeAll precedes patience runs).Meets P fun xs => ∀ x ∈ xs, S x := by
  fun_induction mergeAll precedes patience runs with
  | case1 patience last middle first earlier shorter ih =>
    obtain ⟨hlast, hmiddle, hfirst, hearlier⟩ := (by simpa only [stacked_cons] using stacked)
    refine (meets_merge compares patience hfirst hmiddle).bind fun (items, patience) hitems => ?_
    exact ih items patience (stacked_cons.mpr ⟨hlast, stacked_cons.mpr ⟨hitems, hearlier⟩⟩)
  | case2 patience last middle first earlier shorter ih =>
    obtain ⟨hlast, hmiddle, hfirst, hearlier⟩ := (by simpa only [stacked_cons] using stacked)
    refine (meets_merge compares patience hmiddle hlast).bind fun (items, patience) hitems => ?_
    exact ih items patience (stacked_cons.mpr ⟨hitems, stacked_cons.mpr ⟨hfirst, hearlier⟩⟩)
  | case3 patience last first =>
    obtain ⟨hlast, hfirst, -⟩ := (by simpa only [stacked_cons] using stacked)
    exact (meets_merge compares patience hfirst hlast).bind fun _ hitems => hitems
  | case4 patience run => exact (stacked_cons.mp stacked).1
  | case5 patience => exact fun x mem => by cases mem

theorem meets_sort (compares : Compares P S precedes) {xs : List α} (hxs : ∀ x ∈ xs, S x) :
    (sort precedes xs).Meets P fun ys => ∀ y ∈ ys, S y :=
  (meets_gather compares _ _ (fun run mem => by cases mem) hxs).bind fun pending stacked =>
    meets_mergeAll compares pending.patience stacked

/-! ## Total orders -/

theorem mergeSort_eq_of_perm {le : α → α → Bool} {xs ys : List α}
    (trans : ∀ a b c, le a b = true → le b c = true → le a c = true)
    (total : ∀ a b, (le a b || le b a) = true)
    (antisymm : ∀ a ∈ ys, ∀ b ∈ ys, le a b = true → le b a = true → a = b)
    (perm : xs.Perm ys) : xs.mergeSort le = ys.mergeSort le := by
  have same : (xs.mergeSort le).Perm (ys.mergeSort le) :=
    (List.mergeSort_perm xs le).trans (perm.trans (List.mergeSort_perm ys le).symm)
  refine List.Perm.eq_of_pairwise ?_ (List.pairwise_mergeSort trans total xs)
    (List.pairwise_mergeSort trans total ys) same
  intro a b ha hb
  exact antisymm a (perm.mem_iff.mp (List.mem_mergeSort.mp ha)) b (List.mem_mergeSort.mp hb)

end ProofDriver.Sorting
