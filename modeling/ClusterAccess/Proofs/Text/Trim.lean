import ClusterAccess.Text.Blank
import Mathlib.Data.List.TakeWhile

/-!
Texts with something taken off their ends: white space at both of them, or a leading text. What is
left is told by what it was taken out of, and there is one such text.
-/

namespace ClusterAccess.Text

/-! ### White space -/

structure Tight (cs : List Char) : Prop where
  head : ∀ c, cs.head? = some c → isBlank c = false
  last : ∀ c, cs.getLast? = some c → isBlank c = false

/-- Around the inner text there is nothing but white space, and it has none at its own ends. -/
def Trims (text inner : String) : Prop :=
  Tight inner.toList ∧ ∃ front back, text.toList = front ++ (inner.toList ++ back) ∧
    (∀ c ∈ front, isBlank c = true) ∧ ∀ c ∈ back, isBlank c = true

variable {front back cs : List Char} {text inner lead rest : String}

theorem dropWhile_blank (hfront : ∀ c ∈ front, isBlank c = true)
    (hcs : ∀ c, cs.head? = some c → isBlank c = false) :
    (front ++ cs).dropWhile isBlank = cs := by
  rw [List.dropWhile_append_of_pos hfront]
  cases cs with
  | nil => rfl
  | cons c cs => exact List.dropWhile_cons_of_neg (by simp [hcs c rfl])

theorem head_dropWhile_blank (cs : List Char) :
    ∀ c, (cs.dropWhile isBlank).head? = some c → isBlank c = false := by
  intro c hc
  have hhead := List.head?_dropWhile_not isBlank cs
  rw [hc] at hhead
  exact hhead

theorem trims_trim (text : String) : Trims text (trim text) := by
  have hinner : (trim text).toList = trimChars text.toList := String.toList_ofList
  let tail := text.toList.dropWhile isBlank
  have htail : tail = trimChars text.toList ++ (tail.reverse.takeWhile isBlank).reverse := by
    rw [trimChars, ← List.reverse_append, List.takeWhile_append_dropWhile, List.reverse_reverse]
  have hblank (cs : List Char) : ∀ c ∈ cs.takeWhile isBlank, isBlank c = true :=
    fun c hc => List.mem_takeWhile_imp hc
  refine ⟨⟨fun c hc => ?_, fun c hc => ?_⟩, text.toList.takeWhile isBlank,
    (tail.reverse.takeWhile isBlank).reverse, ?_, hblank _, fun c hc => ?_⟩
  · -- The head of what is left is also the head of what was before the end was trimmed.
    refine head_dropWhile_blank text.toList c ?_
    show tail.head? = some c
    rw [htail, ← hinner, List.head?_append, hc]
    rfl
  · rw [hinner, trimChars, List.getLast?_reverse] at hc
    exact head_dropWhile_blank _ c hc
  · rw [hinner, ← htail, List.takeWhile_append_dropWhile]
  · exact hblank _ c (List.mem_reverse.mp hc)

theorem trimChars_eq (hcs : Tight cs) (hfront : ∀ c ∈ front, isBlank c = true)
    (hback : ∀ c ∈ back, isBlank c = true) : trimChars (front ++ (cs ++ back)) = cs := by
  cases cs with
  | nil =>
      have hall : ∀ c ∈ front ++ back, isBlank c = true :=
        List.forall_mem_append.mpr ⟨hfront, hback⟩
      have hnone : (front ++ ([] ++ back)).dropWhile isBlank = [] :=
        List.dropWhile_eq_nil_iff.mpr hall
      rw [trimChars, hnone]
      rfl
  | cons c cs =>
      have hlast : ∀ d, (c :: cs).reverse.head? = some d → isBlank d = false := by
        intro d hd
        rw [List.head?_reverse] at hd
        exact hcs.last d hd
      have hrest : (front ++ (c :: cs ++ back)).dropWhile isBlank = c :: cs ++ back :=
        dropWhile_blank hfront (by rintro _ ⟨⟩; exact hcs.head c rfl)
      rw [trimChars, hrest, List.reverse_append,
        dropWhile_blank (fun d hd => hback d (List.mem_reverse.mp hd)) hlast, List.reverse_reverse]

theorem trims_iff : Trims text inner ↔ trim text = inner := by
  refine ⟨?_, fun h => h ▸ trims_trim text⟩
  rintro ⟨htight, front, back, htext, hfront, hback⟩
  rw [trim, htext, trimChars_eq htight hfront hback, String.ofList_toList]

/-- Nothing is left of a text without the white space at its ends if it is all white space. -/
theorem trim_eq_empty_iff : trim text = "" ↔ ∀ c ∈ text.toList, isBlank c = true := by
  rw [← trims_iff]
  constructor
  · rintro ⟨-, front, back, htext, hfront, hback⟩
    rw [htext]
    exact List.forall_mem_append.mpr ⟨hfront, hback⟩
  · intro h
    exact ⟨⟨by simp, by simp⟩, text.toList, [], by simp, h, by simp⟩

/-! ### Leading texts -/

/-- What stands behind one leading occurrence of a text, or everything if it does not lead. -/
def Behind (lead text rest : String) : Prop :=
  text = lead ++ rest ∨ (∀ more, text ≠ lead ++ more) ∧ rest = text

theorem withoutLeading_append (lead rest : String) : withoutLeading lead (lead ++ rest) = rest := by
  have hprefix : lead.toList.isPrefixOf (lead ++ rest).toList = true := by simp
  rw [withoutLeading, if_pos hprefix, String.toList_append, List.drop_left, String.ofList_toList]

theorem behind_iff : Behind lead text rest ↔ withoutLeading lead text = rest := by
  by_cases hlead : ∃ more, text = lead ++ more
  · obtain ⟨more, rfl⟩ := hlead
    rw [withoutLeading_append]
    constructor
    · rintro (h | ⟨h, -⟩)
      · exact String.append_right_inj lead |>.mp h
      · exact absurd rfl (h more)
    · rintro rfl
      exact .inl rfl
  · have hprefix : ¬ lead.toList.isPrefixOf text.toList = true := by
      rw [List.isPrefixOf_iff_prefix]
      rintro ⟨more, hmore⟩
      refine hlead ⟨.ofList more, ?_⟩
      rw [← String.toList_inj, String.toList_append, String.toList_ofList, hmore]
    rw [withoutLeading, if_neg hprefix]
    constructor
    · rintro (h | ⟨-, h⟩)
      · exact absurd ⟨rest, h⟩ hlead
      · exact h.symm
    · rintro rfl
      exact .inr ⟨fun more hmore => hlead ⟨more, hmore⟩, rfl⟩

end ClusterAccess.Text
