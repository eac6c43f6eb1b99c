import Mathlib
import SpriteStage.Proofs.Drawing

/-!
# How menu items are cut

Every item has exactly one cut (`segments_eq_iff`): its segments have texts and put together they
are the item, a bold one is what stands between a bracket and the first one that closes it, with
both, and a plain one has no bracket that opens, except that the last one may be a bracket that is
never closed. Two plain segments do not follow each other, but for that last one.
-/

namespace SpriteStage.Menu

/-! ## Conditions on a cut -/

/-- The text starts with a bracket that opens, ends with one that closes, and closes none before. -/
def Segment.IsBracketed (s : Segment) : Prop :=
  ∃ inside, s.text.toList = '[' :: (inside ++ [']']) ∧ ']' ∉ inside

/-- The text starts with a bracket that opens and has none that closes. -/
def Segment.IsUnclosed (s : Segment) : Prop :=
  ∃ inside, s.text.toList = '[' :: inside ∧ ']' ∉ inside

/-- The conditions on the segments of an item. In `plain` and `adjacent` a segment is looked at with
all that comes later. -/
structure WellCut (segs : List Segment) : Prop where
  nonempty : ∀ s ∈ segs, s.text ≠ ""
  bold : ∀ s ∈ segs, s.bold = true → s.IsBracketed
  plain : ∀ s later, s :: later <:+ segs → s.bold = false →
    '[' ∉ s.text.toList ∨ later = [] ∧ s.IsUnclosed
  adjacent : ∀ s t later, s :: t :: later <:+ segs → s.bold = false → t.bold = false →
    later = [] ∧ t.IsUnclosed

/-! ## What the scan does -/

section Scan

variable {before inside : List Char}

/-- The characters up to one that is looked for, and what follows them. -/
theorem takeWhile_dropWhile_of_not_mem {c : Char} {l : List Char} (h : c ∉ l) (rest : List Char) :
    (l ++ c :: rest).takeWhile (· ≠ c) = l ∧ (l ++ c :: rest).dropWhile (· ≠ c) = c :: rest := by
  have hall : ∀ d ∈ l, decide (d ≠ c) = true := fun d hd => decide_eq_true fun heq => h (heq ▸ hd)
  rw [List.takeWhile_append_of_pos hall, List.dropWhile_append_of_pos hall]
  simp

/-- Without the character nothing is left of the list. -/
theorem dropWhile_of_not_mem {c : Char} {l : List Char} (h : c ∉ l) :
    l.dropWhile (· ≠ c) = [] := by
  rw [List.dropWhile_eq_nil_iff]
  exact fun d hd => decide_eq_true fun heq => h (heq ▸ hd)

/-- Without a bracket that opens all is plain. -/
theorem segmentsOf_of_not_mem (hbefore : '[' ∉ before) : segmentsOf before = plain before := by
  have hdrop := dropWhile_of_not_mem hbefore
  rw [segmentsOf]
  split
  · rfl
  · rename_i hcons
    rw [hdrop] at hcons
    cases hcons

/-- A bracket that is never closed is plain with all that follows it. -/
theorem segmentsOf_unclosed (hbefore : '[' ∉ before) (hinside : ']' ∉ inside) :
    segmentsOf (before ++ '[' :: inside) =
      plain before ++ [⟨false, String.ofList ('[' :: inside)⟩] := by
  obtain ⟨htake, hdrop⟩ := takeWhile_dropWhile_of_not_mem hbefore inside
  have hclosing := dropWhile_of_not_mem hinside
  rw [segmentsOf]
  split
  · rename_i hnil
    rw [hdrop] at hnil
    cases hnil
  · rename_i opening rest hcons
    rw [hdrop] at hcons
    cases hcons
    split
    · rw [htake]
      rfl
    · rename_i hcons
      rw [hclosing] at hcons
      cases hcons

/-- What stands in brackets is bold, and the scan goes on behind them. -/
theorem segmentsOf_bracketed (hbefore : '[' ∉ before) (hinside : ']' ∉ inside) (cs : List Char) :
    segmentsOf (before ++ '[' :: (inside ++ ']' :: cs)) =
      plain before ++ ⟨true, String.ofList ('[' :: (inside ++ [']']))⟩ :: segmentsOf cs := by
  obtain ⟨htake, hdrop⟩ := takeWhile_dropWhile_of_not_mem hbefore (inside ++ ']' :: cs)
  obtain ⟨htake', hdrop'⟩ := takeWhile_dropWhile_of_not_mem hinside cs
  rw [segmentsOf]
  split
  · rename_i hnil
    rw [hdrop] at hnil
    cases hnil
  · rename_i opening rest hcons
    rw [hdrop] at hcons
    cases hcons
    split
    · rename_i hnil
      rw [hdrop'] at hnil
      cases hnil
    · rename_i closing after hcons
      rw [hdrop'] at hcons
      cases hcons
      rw [htake, htake']
      rfl

/-- What stands before the first bracket is cut off. -/
theorem segmentsOf_append (hbefore : '[' ∉ before) (cs : List Char) :
    segmentsOf (before ++ '[' :: cs) = plain before ++ segmentsOf ('[' :: cs) := by
  by_cases hclosed : ']' ∈ cs
  · obtain ⟨inside, after, rfl, hinside⟩ := List.eq_append_cons_of_mem hclosed
    rw [segmentsOf_bracketed hbefore hinside]
    exact congrArg _ (segmentsOf_bracketed (List.not_mem_nil) hinside after).symm
  · rw [segmentsOf_unclosed hbefore hclosed]
    exact congrArg _ (segmentsOf_unclosed (List.not_mem_nil) hclosed).symm

end Scan

/-! ## The scan cuts well -/

section WellCut

variable {s : Segment} {segs : List Segment}

theorem wellCut_nil : WellCut [] where
  nonempty := fun _ hs => absurd hs List.not_mem_nil
  bold := fun _ hs => absurd hs List.not_mem_nil
  plain := fun _ _ hsuffix => absurd (List.suffix_nil.1 hsuffix) (List.cons_ne_nil _ _)
  adjacent := fun _ _ _ hsuffix => absurd (List.suffix_nil.1 hsuffix) (List.cons_ne_nil _ _)

theorem Segment.ne_empty_of_cons {c : Char} {cs : List Char} (h : s.text.toList = c :: cs) :
    s.text ≠ "" := by
  intro hempty
  rw [hempty] at h
  cases h

/-- A bold segment may stand before all others. -/
theorem WellCut.cons_bold (h : WellCut segs) (hbold : s.bold = true) (hs : s.IsBracketed) :
    WellCut (s :: segs) where
  nonempty := by
    obtain ⟨inside, htext, -⟩ := hs
    exact List.forall_mem_cons.2 ⟨Segment.ne_empty_of_cons htext, h.nonempty⟩
  bold := List.forall_mem_cons.2 ⟨fun _ => hs, h.bold⟩
  plain := by
    intro t later hsuffix ht
    rcases List.suffix_cons_iff.1 hsuffix with heq | hsuffix
    · cases heq
      exact absurd (hbold.symm.trans ht) (by decide)
    · exact h.plain t later hsuffix ht
  adjacent := by
    intro t u later hsuffix ht hu
    rcases List.suffix_cons_iff.1 hsuffix with heq | hsuffix
    · cases heq
      exact absurd (hbold.symm.trans ht) (by decide)
    · exact h.adjacent t u later hsuffix ht hu

/-- A bracket that is never closed is a cut of its own. -/
theorem wellCut_unclosed (hs : s.IsUnclosed) (hplain : s.bold = false) : WellCut [s] where
  nonempty := by
    obtain ⟨inside, htext, -⟩ := hs
    exact List.forall_mem_singleton.2 (Segment.ne_empty_of_cons htext)
  bold := List.forall_mem_singleton.2 fun hbold => absurd (hplain.symm.trans hbold) (by decide)
  plain := by
    intro t later hsuffix _
    rcases List.suffix_cons_iff.1 hsuffix with heq | hsuffix
    · cases heq
      exact Or.inr ⟨rfl, hs⟩
    · exact absurd (List.suffix_nil.1 hsuffix) (List.cons_ne_nil _ _)
  adjacent := by
    intro t u later hsuffix
    exact absurd hsuffix.length_le (by simp)

/-- A text without brackets may stand before a bold segment, before a bracket that is never closed,
and at the end. -/
theorem WellCut.plain_append (h : WellCut segs) {before : List Char} (hbefore : '[' ∉ before)
    (hnext : ∀ t later, segs = t :: later → t.bold = false → later = [] ∧ t.IsUnclosed) :
    WellCut (Menu.plain before ++ segs) := by
  unfold Menu.plain
  split
  · exact h
  · rename_i hempty
    have htext : (String.ofList before).toList = before := String.toList_ofList
    refine ⟨?_, ?_, ?_, ?_⟩
    · refine List.forall_mem_cons.2 ⟨?_, h.nonempty⟩
      intro heq
      rw [← String.toList_inj, htext] at heq
      exact hempty (List.isEmpty_iff.2 heq)
    · exact List.forall_mem_cons.2 ⟨fun hbold => Bool.noConfusion hbold, h.bold⟩
    · intro t later hsuffix ht
      rcases List.suffix_cons_iff.1 hsuffix with heq | hsuffix
      · cases heq
        exact Or.inl (htext.symm ▸ hbefore)
      · exact h.plain t later hsuffix ht
    · intro t u later hsuffix ht hu
      rcases List.suffix_cons_iff.1 hsuffix with heq | hsuffix
      · cases heq
        exact hnext u later rfl hu
      · exact h.adjacent t u later hsuffix ht hu

/-- The segments of an item are well cut. -/
theorem wellCut_segmentsOf (cs : List Char) : WellCut (segmentsOf cs) := by
  -- the scan goes on behind a closing bracket, with fewer characters
  induction hlength : cs.length using Nat.strong_induction_on generalizing cs with
  | _ n ih =>
    by_cases hopen : '[' ∈ cs
    · obtain ⟨before, rest, rfl, hbefore⟩ := List.eq_append_cons_of_mem hopen
      by_cases hclose : ']' ∈ rest
      · obtain ⟨inside, after, rfl, hinside⟩ := List.eq_append_cons_of_mem hclose
        have hafter : WellCut (segmentsOf after) := by
          refine ih after.length ?_ after rfl
          simp only [List.length_append, List.length_cons] at hlength
          omega
        rw [segmentsOf_bracketed hbefore hinside]
        have htext : (String.ofList ('[' :: (inside ++ [']']))).toList =
            '[' :: (inside ++ [']']) := String.toList_ofList
        refine (hafter.cons_bold rfl ⟨inside, htext, hinside⟩).plain_append hbefore ?_
        intro t later heq ht
        cases heq
        cases ht
      · rw [segmentsOf_unclosed hbefore hclose]
        have hunclosed : Segment.IsUnclosed ⟨false, String.ofList ('[' :: rest)⟩ :=
          ⟨rest, String.toList_ofList, hclose⟩
        refine (wellCut_unclosed hunclosed rfl).plain_append hbefore ?_
        intro t later heq _
        cases heq
        exact ⟨rfl, hunclosed⟩
    · rw [segmentsOf_of_not_mem hopen, ← List.append_nil (Menu.plain cs)]
      refine wellCut_nil.plain_append hopen ?_
      intro t later heq
      cases heq

/-! ## No other cut is well -/

/-- What follows the first segment is well cut as well. -/
theorem WellCut.tail (h : WellCut (s :: segs)) : WellCut segs where
  nonempty := fun t ht => h.nonempty t (List.mem_cons_of_mem s ht)
  bold := fun t ht => h.bold t (List.mem_cons_of_mem s ht)
  plain := fun t later hsuffix => h.plain t later (List.suffix_cons_iff.2 (Or.inr hsuffix))
  adjacent := fun t u later hsuffix =>
    h.adjacent t u later (List.suffix_cons_iff.2 (Or.inr hsuffix))

/-- Behind a plain segment without brackets the rest of the text starts with one, or there is no
rest. -/
theorem WellCut.starts_with_bracket (h : WellCut (s :: segs)) (hplain : s.bold = false) :
    segs = [] ∨ ∃ cs, segs.flatMap (·.text.toList) = '[' :: cs := by
  cases segs with
  | nil => exact Or.inl rfl
  | cons t later =>
    right
    have hstarts : ∃ inside, t.text.toList = '[' :: inside := by
      cases hbold : t.bold with
      | true =>
        obtain ⟨inside, htext, -⟩ := h.bold t (by simp) hbold
        exact ⟨_, htext⟩
      | false =>
        obtain ⟨-, inside, htext, -⟩ := h.adjacent s t later List.suffix_rfl hplain hbold
        exact ⟨inside, htext⟩
    obtain ⟨inside, htext⟩ := hstarts
    rw [List.flatMap_cons, htext]
    exact ⟨_, rfl⟩

/-- A plain segment with a text is what the text is cut to. -/
theorem plain_toList (hplain : s.bold = false) (htext : s.text ≠ "") :
    Menu.plain s.text.toList = [s] := by
  obtain ⟨bold, text⟩ := s
  cases hplain
  have hne : ¬text.toList.isEmpty := by
    rw [List.isEmpty_iff]
    intro heq
    exact htext (String.toList_inj.1 heq)
  rw [Menu.plain, if_neg hne, String.ofList_toList]

/-- Segments that are cut well are what the scan makes of their texts. -/
theorem WellCut.segmentsOf_eq (h : WellCut segs) :
    segmentsOf (segs.flatMap (·.text.toList)) = segs := by
  induction segs with
  | nil => exact segmentsOf_of_not_mem List.not_mem_nil
  | cons s segs ih =>
    have hrest := ih h.tail
    have htext := h.nonempty s (by simp)
    rw [List.flatMap_cons]
    cases hbold : s.bold with
    | true =>
      obtain ⟨inside, hchars, hinside⟩ := h.bold s (by simp) hbold
      calc segmentsOf (s.text.toList ++ segs.flatMap (·.text.toList))
          = segmentsOf ([] ++ '[' :: (inside ++ ']' :: segs.flatMap (·.text.toList))) := by
            rw [hchars, List.cons_append, List.append_assoc]
            rfl
        _ = ⟨true, String.ofList ('[' :: (inside ++ [']']))⟩ ::
              segmentsOf (segs.flatMap (·.text.toList)) :=
            segmentsOf_bracketed List.not_mem_nil hinside _
        _ = s :: segs := by rw [← hchars, String.ofList_toList, hrest, ← hbold]
    | false =>
      rcases h.plain s segs List.suffix_rfl hbold with hno | ⟨rfl, inside, hchars, hinside⟩
      · rcases h.starts_with_bracket hbold with rfl | ⟨cs, hcs⟩
        · rw [List.flatMap_nil, List.append_nil, segmentsOf_of_not_mem hno,
            plain_toList hbold htext]
        · rw [hcs, segmentsOf_append hno, ← hcs, hrest, plain_toList hbold htext]
          rfl
      · calc segmentsOf (s.text.toList ++ [])
            = segmentsOf ([] ++ '[' :: inside) := by rw [List.append_nil, hchars, List.nil_append]
          _ = [⟨false, String.ofList ('[' :: inside)⟩] :=
              segmentsOf_unclosed List.not_mem_nil hinside
          _ = [s] := by rw [← hchars, String.ofList_toList, ← hbold]

end WellCut

/-- **Every item has one cut.** The segments of an item are the one list of segments that is cut
well and has the item as its text. -/
theorem segments_eq_iff (item : String) (segs : List Segment) :
    segments item = segs ↔ String.join (segs.map (·.text)) = item ∧ WellCut segs := by
  have hjoin : (String.join (segs.map (·.text))).toList = segs.flatMap (·.text.toList) := by
    rw [String.toList_join, List.flatMap_map]
  constructor
  · rintro rfl
    rw [← String.toList_inj, hjoin]
    exact ⟨text_segmentsOf item.toList, wellCut_segmentsOf item.toList⟩
  · rintro ⟨rfl, hcut⟩
    rw [segments, hjoin]
    exact hcut.segmentsOf_eq

example : segments "]go[[on][" = [⟨false, "]go"⟩, ⟨true, "[[on]"⟩, ⟨false, "["⟩] := by cbv

end SpriteStage.Menu
