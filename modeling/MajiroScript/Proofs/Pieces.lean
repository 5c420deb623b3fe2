import MajiroScript.Pieces

/-! The pieces of a list are its maximal runs without separators, one piece for
each and in their order.  Cutting at a separator cuts both sides on their own. -/
namespace MajiroScript

variable {α : Type u} {isSeparator : α → Bool}

theorem cut_eq_splitOnP (isSeparator : α → Bool) (items : List α) :
    cut isSeparator items = items.splitOnP isSeparator := by
  induction items with
  | nil => rfl
  | cons item items ih =>
      rw [List.splitOnP_cons_eq_if_modifyHead, ← ih]
      simp only [cut, List.foldr_cons]
      split
      · rfl
      · split
        · next hnone => exact absurd (ih.symm.trans hnone) (List.splitOnP_ne_nil _ _)
        · next hsome => rw [hsome, List.modifyHead_cons]

theorem pieces_eq_filter_splitOnP (isSeparator : α → Bool) (items : List α) :
    pieces isSeparator items = (items.splitOnP isSeparator).filter fun piece => !piece.isEmpty := by
  rw [pieces, cut_eq_splitOnP]

theorem pieces_append_separator {separator : α} (hseparator : isSeparator separator)
    (left right : List α) :
    pieces isSeparator (left ++ separator :: right) =
      pieces isSeparator left ++ pieces isSeparator right := by
  simp only [pieces_eq_filter_splitOnP, List.splitOnP_append_cons _ _ hseparator,
    List.filter_append]

@[simp] theorem pieces_nil (isSeparator : α → Bool) : pieces isSeparator [] = [] := rfl

theorem pieces_of_run {run : List α} (hsome : run ≠ [])
    (hrun : ∀ item ∈ run, isSeparator item = false) : pieces isSeparator run = [run] := by
  simp [pieces_eq_filter_splitOnP, List.splitOnP_eq_singleton hrun, hsome]

theorem ne_nil_of_mem_pieces {items piece : List α} (h : piece ∈ pieces isSeparator items) :
    piece ≠ [] := by
  simpa using (List.mem_filter.mp h).2

/-- Every list is a run without separators, or such a run, a separator and a
list that is cut again. -/
@[elab_as_elim] theorem cut_induction (isSeparator : α → Bool) {motive : List α → Prop}
    (run : ∀ items, (∀ item ∈ items, isSeparator item = false) → motive items)
    (cut : ∀ run separator items, (∀ item ∈ run, isSeparator item = false) →
      isSeparator separator → motive items → motive (run ++ separator :: items))
    (items : List α) : motive items := by
  -- The run before the first separator grows by one item at a time.
  suffices hbehind : ∀ front, (∀ item ∈ front, isSeparator item = false) →
      motive (front ++ items) from hbehind [] (by simp)
  induction items with
  | nil =>
      intro front hfront
      rw [List.append_nil]
      exact run front hfront
  | cons item items ih =>
      intro front hfront
      cases hitem : isSeparator item with
      | true => exact cut front item items hfront hitem (ih [] (by simp))
      | false =>
          have hgrown : ∀ other ∈ front ++ [item], isSeparator other = false := by
            simp only [List.mem_append, List.mem_singleton]
            rintro other (hother | rfl)
            · exact hfront other hother
            · exact hitem
          rw [List.append_cons]
          exact ih (front ++ [item]) hgrown

theorem pieces_separators_append {gap : List α} (hgap : ∀ item ∈ gap, isSeparator item)
    (items : List α) : pieces isSeparator (gap ++ items) = pieces isSeparator items := by
  induction gap with
  | nil => rfl
  | cons separator gap ih =>
      have hseparator := hgap separator List.mem_cons_self
      rw [List.cons_append, ← List.nil_append (separator :: (gap ++ items)),
        pieces_append_separator hseparator, pieces_nil, List.nil_append]
      exact ih fun item hitem => hgap item (List.mem_cons_of_mem separator hitem)

theorem pieces_append_separators {gap : List α} (hgap : ∀ item ∈ gap, isSeparator item)
    (items : List α) : pieces isSeparator (items ++ gap) = pieces isSeparator items := by
  cases gap with
  | nil => rw [List.append_nil]
  | cons separator gap =>
      have hrest := pieces_separators_append
        (fun item hitem => hgap item (List.mem_cons_of_mem separator hitem)) []
      rw [pieces_append_separator (hgap separator List.mem_cons_self), ← List.append_nil gap,
        hrest, pieces_nil, List.append_nil]

/-- Tokens one behind the other, with one separator or more between two of them. -/
inductive Joined (isSeparator : α → Bool) : List (List α) → List α → Prop where
  | nil : Joined isSeparator [] []
  | single (token : List α) : Joined isSeparator [token] token
  | cons (token : List α) {gap next items : List α} {tokens : List (List α)} (wide : gap ≠ [])
      (separates : ∀ item ∈ gap, isSeparator item)
      (others : Joined isSeparator (next :: tokens) items) :
      Joined isSeparator (token :: next :: tokens) (token ++ (gap ++ items))

theorem Joined.pieces_eq {tokens : List (List α)} {items : List α}
    (h : Joined isSeparator tokens items)
    (htokens : ∀ token ∈ tokens, token ≠ [] ∧ ∀ item ∈ token, isSeparator item = false) :
    pieces isSeparator items = tokens := by
  induction h with
  | nil => rfl
  | single token =>
      have htoken := htokens token List.mem_cons_self
      exact pieces_of_run htoken.1 htoken.2
  | @cons token gap next items tokens wide separates others ih =>
      have htoken := htokens token List.mem_cons_self
      obtain ⟨separator, gap, rfl⟩ := List.exists_cons_of_ne_nil wide
      rw [List.cons_append, pieces_append_separator (separates separator List.mem_cons_self),
        pieces_of_run htoken.1 htoken.2,
        pieces_separators_append fun item hitem => separates item (List.mem_cons_of_mem _ hitem),
        ih fun other hother => htokens other (List.mem_cons_of_mem token hother)]
      rfl

/-- At an offset stands a run without separators that has a separator or an end
of the list on both sides. -/
def RunAt (isSeparator : α → Bool) (items : List α) (offset : Nat) (run : List α) : Prop :=
  ∃ before after, items = before ++ (run ++ after) ∧ before.length = offset ∧ run ≠ [] ∧
    (∀ item ∈ run, isSeparator item = false) ∧
    (∀ item ∈ before.getLast?, isSeparator item) ∧ ∀ item ∈ after.head?, isSeparator item

def AreRuns (isSeparator : α → Bool) (items : List α) (runs : List (List α)) : Prop :=
  ∃ places : List (Nat × List α), places.map Prod.snd = runs ∧
    places.Pairwise (fun first second => first.1 < second.1) ∧
    ∀ offset run, (offset, run) ∈ places ↔ RunAt isSeparator items offset run

theorem runAt_of_run {items : List α} (hitems : ∀ item ∈ items, isSeparator item = false)
    {offset : Nat} {run : List α} :
    RunAt isSeparator items offset run ↔ offset = 0 ∧ run = items ∧ items ≠ [] := by
  constructor
  · rintro ⟨before, after, rfl, rfl, hsome, -, hbefore, hafter⟩
    -- A separator beside the run would be an item of the list.
    have hfirst : before = [] := by
      cases hlast : before.getLast? with
      | none => exact List.getLast?_eq_none_iff.mp hlast
      | some item =>
          have hitem := hitems item (List.mem_append_left _ (List.mem_of_getLast? hlast))
          simp [hbefore item hlast] at hitem
    have hend : after = [] := by
      cases hnext : after.head? with
      | none => exact List.head?_eq_none_iff.mp hnext
      | some item =>
          have hitem := hitems item
            (List.mem_append_right _ (List.mem_append_right _ (List.mem_of_head? hnext)))
          simp [hafter item hnext] at hitem
    subst hfirst hend
    simpa using hsome
  · rintro ⟨rfl, rfl, hsome⟩
    exact ⟨[], [], by simp, rfl, hsome, hitems, by simp, by simp⟩

theorem runAt_append_separator {separator : α} (hseparator : isSeparator separator)
    {left right run : List α} {offset : Nat} :
    RunAt isSeparator (left ++ separator :: right) offset run ↔
      RunAt isSeparator left offset run ∨
        ∃ place, offset = left.length + 1 + place ∧ RunAt isSeparator right place run := by
  constructor
  · rintro ⟨before, after, hitems, rfl, hsome, hrun, hbefore, hafter⟩
    have houtside : separator ∉ run := by
      intro hmem
      simp [hrun separator hmem] at hseparator
    obtain ⟨middle, rfl, hright⟩ | ⟨middle, rfl, hleft⟩ := List.append_eq_append_iff.mp hitems
    · right
      obtain ⟨-, hfront⟩ | ⟨middle, rfl, rfl⟩ := List.cons_eq_append_iff.mp hright
      · obtain ⟨first, run, rfl⟩ := List.exists_cons_of_ne_nil hsome
        simp only [List.cons_append, List.cons.injEq] at hfront
        simp [hfront.1] at houtside
      · refine ⟨middle.length, by simp; omega, middle, after, rfl, rfl, hsome, hrun, ?_, hafter⟩
        intro item hitem
        exact hbefore item (by simp_all [List.getLast?_cons])
    · left
      obtain ⟨behind, rfl, rfl⟩ | ⟨behind, rfl, hbehind⟩ := List.append_eq_append_iff.mp hleft
      · refine ⟨before, behind, rfl, rfl, hsome, hrun, hbefore, ?_⟩
        intro item hitem
        exact hafter item (by simp_all)
      · obtain ⟨rfl, -⟩ | ⟨behind, rfl, -⟩ := List.cons_eq_append_iff.mp hbehind
        · exact ⟨before, [], by simp, rfl, hsome, hrun, hbefore, by simp⟩
        · simp at houtside
  · rintro (⟨before, after, rfl, rfl, hsome, hrun, hbefore, hafter⟩ |
      ⟨place, rfl, before, after, rfl, rfl, hsome, hrun, hbefore, hafter⟩)
    · refine ⟨before, after ++ separator :: right, by simp, rfl, hsome, hrun, hbefore, ?_⟩
      cases after with
      | nil => simpa using hseparator
      | cons next after => simpa using hafter
    · refine ⟨left ++ separator :: before, after, by simp, ?_, hsome, hrun, ?_, hafter⟩
      · simp only [List.length_append, List.length_cons]
        omega
      · cases hlast : before.getLast? with
        | none => simpa [List.getLast?_cons, hlast] using hseparator
        | some item => simpa [List.getLast?_cons, hlast] using hbefore

theorem areRuns_of_run {items : List α} (hitems : ∀ item ∈ items, isSeparator item = false) :
    AreRuns isSeparator items (pieces isSeparator items) := by
  by_cases hsome : items = []
  · subst hsome
    exact ⟨[], rfl, .nil, by simp [runAt_of_run]⟩
  · rw [pieces_of_run hsome hitems]
    refine ⟨[(0, items)], rfl, List.pairwise_singleton _ _, ?_⟩
    intro offset run
    rw [runAt_of_run hitems]
    simp [hsome]

theorem AreRuns.append {separator : α} (hseparator : isSeparator separator)
    {left right : List α} {leftRuns rightRuns : List (List α)}
    (hleft : AreRuns isSeparator left leftRuns) (hright : AreRuns isSeparator right rightRuns) :
    AreRuns isSeparator (left ++ separator :: right) (leftRuns ++ rightRuns) := by
  obtain ⟨leftPlaces, rfl, hleftOrder, hleftPlaces⟩ := hleft
  obtain ⟨rightPlaces, rfl, hrightOrder, hrightPlaces⟩ := hright
  refine ⟨leftPlaces ++ rightPlaces.map (fun place => (left.length + 1 + place.1, place.2)),
    by simp, ?_, ?_⟩
  · rw [List.pairwise_append, List.pairwise_map]
    refine ⟨hleftOrder, hrightOrder.imp (by omega), ?_⟩
    simp only [List.mem_map]
    rintro ⟨offset, run⟩ hplace _ ⟨place, -, rfl⟩
    obtain ⟨before, after, rfl, rfl, -⟩ := (hleftPlaces offset run).mp hplace
    simp only [List.length_append]
    omega
  · intro offset run
    rw [runAt_append_separator hseparator, List.mem_append, hleftPlaces]
    refine or_congr_right ?_
    simp only [List.mem_map, Prod.mk.injEq, Prod.exists]
    constructor
    · rintro ⟨place, found, hplace, rfl, rfl⟩
      exact ⟨place, rfl, (hrightPlaces place found).mp hplace⟩
    · rintro ⟨place, rfl, hrun⟩
      exact ⟨place, run, (hrightPlaces place run).mpr hrun, rfl, rfl⟩

theorem areRuns_pieces (isSeparator : α → Bool) (items : List α) :
    AreRuns isSeparator items (pieces isSeparator items) := by
  induction items using cut_induction isSeparator with
  | run items hitems => exact areRuns_of_run hitems
  | cut run separator items hrun hseparator ih =>
      rw [pieces_append_separator hseparator]
      exact (areRuns_of_run hrun).append hseparator ih

end MajiroScript
