import Mathlib.Data.List.Forall2
import Mathlib.Data.List.Induction

/-!
# Linked lists of entries

Every entry of a chain has a number, carries the mark of the entry before it,
and has a mark of its own.  Chains grow at their end, every part of a chain is
a chain, and the mark of the last entry determines all of them when marks
determine entries.
-/

namespace TaskTwin.Chain

variable {Entry Mark : Type*}

/-- What a chain reads of its entries. -/
structure Links (Entry Mark : Type*) where
  number : Entry → Int
  previous : Entry → Mark
  mark : Entry → Mark
  sound : Entry → Prop

/-- Entries with consecutive numbers, each linked to the one before. -/
def Linked (links : Links Entry Mark) : Int → Mark → List Entry → Prop
  | _, _, [] => True
  | first, previous, entry :: entries =>
      links.number entry = first ∧
        links.previous entry = previous ∧
        links.sound entry ∧
        Linked links (first + 1) (links.mark entry) entries

/-- The mark of the last entry, or the one that the chain begins with. -/
def headMark
    (links : Links Entry Mark)
    (previous : Mark)
    (entries : List Entry) :
    Mark :=
  entries.foldl (fun _ entry => links.mark entry) previous

variable {links : Links Entry Mark}

@[simp] theorem headMark_nil (previous : Mark) :
    headMark links previous [] = previous :=
  rfl

@[simp] theorem headMark_cons
    (previous : Mark)
    (entry : Entry)
    (entries : List Entry) :
    headMark links previous (entry :: entries) =
      headMark links (links.mark entry) entries :=
  rfl

theorem headMark_concat
    (previous : Mark)
    (entries : List Entry)
    (entry : Entry) :
    headMark links previous (entries ++ [entry]) = links.mark entry := by
  simp [headMark]

variable {first : Int} {previous : Mark} {entries : List Entry}

/-- A chain is two chains, one behind the other. -/
theorem linked_append
    {before after : List Entry} :
    Linked links first previous (before ++ after) ↔
      Linked links first previous before ∧
        Linked links (first + before.length)
          (headMark links previous before) after := by
  induction before generalizing first previous with
  | nil => simp [Linked]
  | cons entry before inductionHypothesis =>
      have later : first + 1 + before.length = first + (before.length + 1) := by
        omega
      simp only [List.cons_append, Linked, inductionHypothesis, headMark_cons,
        List.length_cons, Int.natCast_add, Int.natCast_one, later, and_assoc]

/-- One more entry at the end. -/
theorem Linked.concat
    {entry : Entry}
    (linked : Linked links first previous entries)
    (isNumber : links.number entry = first + entries.length)
    (isPrevious : links.previous entry = headMark links previous entries)
    (sound : links.sound entry) :
    Linked links first previous (entries ++ [entry]) :=
  linked_append.mpr ⟨linked, isNumber, isPrevious, sound, trivial⟩

/-- Every part of a chain is a chain. -/
theorem Linked.part
    {before part after : List Entry}
    (linked : Linked links first previous (before ++ part ++ after)) :
    Linked links (first + before.length) (headMark links previous before)
      part :=
  (linked_append.mp (linked_append.mp linked).1).2

theorem Linked.sound
    (linked : Linked links first previous entries) :
    ∀ entry ∈ entries, links.sound entry := by
  induction entries generalizing first previous with
  | nil => simp
  | cons entry entries inductionHypothesis =>
      obtain ⟨_, _, sound, later⟩ := linked
      exact List.forall_mem_cons.mpr ⟨sound, inductionHypothesis later⟩

/-- The number of the entry at a position. -/
theorem Linked.number
    {position : Nat}
    {entry : Entry}
    (linked : Linked links first previous entries)
    (atPosition : entries[position]? = some entry) :
    links.number entry = first + position := by
  obtain ⟨inside, isEntry⟩ := List.getElem?_eq_some_iff.mp atPosition
  have split := List.take_append_drop position entries
  rw [List.drop_eq_getElem_cons inside, isEntry] at split
  rw [← split] at linked
  have isNumber := (linked_append.mp linked).2.1
  rwa [List.length_take, Nat.min_eq_left (Nat.le_of_lt inside)] at isNumber

/-- The numbers of the entries ascend. -/
theorem Linked.ascending
    (linked : Linked links first previous entries) :
    entries.Pairwise fun entry later =>
      links.number entry < links.number later := by
  rw [List.pairwise_iff_getElem]
  intro position later inside inside' before
  rw [linked.number (List.getElem?_eq_getElem inside),
    linked.number (List.getElem?_eq_getElem inside')]
  omega

/-- A chain of sound entries is one for every soundness they have. -/
theorem Linked.restrict
    {sound : Entry → Prop}
    (linked : Linked links first previous entries)
    (isSound : ∀ entry ∈ entries, sound entry) :
    Linked { links with sound } first previous entries := by
  induction entries generalizing first previous with
  | nil => trivial
  | cons entry entries inductionHypothesis =>
      obtain ⟨isNumber, isPrevious, -, later⟩ := linked
      obtain ⟨isSoundEntry, areSound⟩ := List.forall_mem_cons.mp isSound
      exact ⟨isNumber, isPrevious, isSoundEntry,
        inductionHypothesis later areSound⟩

section Agreement

variable
    {same : Entry → Entry → Prop}
    (determined :
      ∀ entry other,
        links.sound entry →
        links.sound other →
        links.mark entry = links.mark other →
        same entry other ∧
          links.number entry = links.number other ∧
          links.previous entry = links.previous other)

include determined

/-- Chains of one length agree from the last entry to the first. -/
theorem Linked.agree_of_length
    {first : Int}
    {previous : Mark}
    {entries others : List Entry}
    (linked : Linked links first previous entries)
    (linked' : Linked links first previous others)
    (sameLength : entries.length = others.length)
    (sameHead :
      headMark links previous entries = headMark links previous others) :
    List.Forall₂ same entries others := by
  induction entries using List.reverseRecOn generalizing others with
  | nil =>
      rw [List.length_nil] at sameLength
      rw [List.length_eq_zero_iff.mp sameLength.symm]
      exact .nil
  | append_singleton entries entry inductionHypothesis =>
      rcases List.eq_nil_or_concat' others with rfl | ⟨others, other, rfl⟩
      · simp at sameLength
      · rw [headMark_concat, headMark_concat] at sameHead
        rw [List.length_append, List.length_append,
          List.length_singleton, List.length_singleton,
          Nat.add_right_cancel_iff] at sameLength
        obtain ⟨earlier, _, isPrevious, sound, _⟩ := linked_append.mp linked
        obtain ⟨earlier', _, isPrevious', sound', _⟩ :=
          linked_append.mp linked'
        obtain ⟨isSame, _, samePrevious⟩ :=
          determined entry other sound sound' sameHead
        have sameHead :
            headMark links previous entries =
              headMark links previous others := by
          rw [← isPrevious, samePrevious, isPrevious']
        exact List.rel_append
          (inductionHypothesis earlier earlier' sameLength sameHead)
          (.cons isSame .nil)

/-- Chains with entries and with the same head agree. -/
theorem Linked.agree
    {first : Int}
    {previous : Mark}
    {entries others : List Entry}
    (linked : Linked links first previous entries)
    (linked' : Linked links first previous others)
    (bothEmpty : entries = [] ↔ others = [])
    (sameHead :
      headMark links previous entries = headMark links previous others) :
    List.Forall₂ same entries others := by
  have sameLength : entries.length = others.length := by
    rcases List.eq_nil_or_concat' entries with rfl | ⟨before, entry, rfl⟩
    · rw [bothEmpty.mp rfl]
    · rcases List.eq_nil_or_concat' others with rfl | ⟨before', other, rfl⟩
      · simp at bothEmpty
      · rw [headMark_concat, headMark_concat] at sameHead
        obtain ⟨_, isNumber, _, sound, _⟩ := linked_append.mp linked
        obtain ⟨_, isNumber', _, sound', _⟩ := linked_append.mp linked'
        obtain ⟨_, sameNumber, _⟩ :=
          determined entry other sound sound' sameHead
        rw [isNumber, isNumber'] at sameNumber
        rw [List.length_append, List.length_append]
        simp only [List.length_singleton]
        omega
  exact linked.agree_of_length determined linked' sameLength sameHead

end Agreement

end TaskTwin.Chain
