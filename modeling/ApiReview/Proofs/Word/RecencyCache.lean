import Mathlib
import ApiReview.Word.RecencyCache

/-! What a bounded memory of answers keeps. It never outgrows its capacity and has
at most one answer to a question; and as long as all that is written into it are
the answers that a function gives, it answers as that function does. -/

set_option autoImplicit false

namespace ApiReview.RecencyCache

variable {Question Answer : Type} {cache after : RecencyCache Question Answer}
  {question : Question} {answer : Answer} {fresh : Question → Answer} {asked : List Question}
  {capacity : Nat}

/-- The questions whose answers are remembered, the one used last at the end. -/
def questions (cache : RecencyCache Question Answer) : List Question := cache.entries.map (·.1)

/-- A cache that holds no more answers than it may, and one for each of some questions that were
asked. -/
structure IsTidy (cache : RecencyCache Question Answer) (capacity : Nat) (asked : List Question) :
    Prop where
  bounded : cache.size ≤ capacity
  distinct : cache.questions.Nodup
  asked : cache.questions ⊆ asked

/-- A tidy cache whose answers are those of a function. -/
structure Recalls (cache : RecencyCache Question Answer) (capacity : Nat)
    (fresh : Question → Answer) (asked : List Question) : Prop where
  capacity_eq : cache.capacity = capacity
  tidy : cache.IsTidy capacity asked
  faithful : ∀ entry ∈ cache.entries, entry.2 = fresh entry.1

theorem recalls_empty : (empty capacity : RecencyCache Question Answer).Recalls capacity fresh asked :=
  ⟨rfl, ⟨Nat.zero_le _, List.nodup_nil, List.nil_subset _⟩, by simp [empty]⟩

theorem clear_eq_empty (cache : RecencyCache Question Answer) : cache.clear = empty cache.capacity :=
  rfl

theorem Recalls.mono {more : List Question} (recalls : cache.Recalls capacity fresh asked)
    (sub : asked ⊆ more) : cache.Recalls capacity fresh more :=
  ⟨recalls.capacity_eq,
    ⟨recalls.tidy.bounded, recalls.tidy.distinct, List.Subset.trans recalls.tidy.asked sub⟩,
    recalls.faithful⟩

theorem nodup_append_last {kept : List (Question × Answer)} (distinct : (kept.map (·.1)).Nodup)
    (other : ∀ entry ∈ kept, entry.1 ≠ question) :
    ((kept ++ [(question, answer)]).map (·.1)).Nodup := by
  rw [List.map_append, List.nodup_append]
  refine ⟨distinct, List.nodup_singleton _, fun first among last inside => ?_⟩
  obtain ⟨entry, held, rfl⟩ := List.mem_map.mp among
  cases List.mem_singleton.mp inside
  exact other entry held

/-- What is kept of the entries, with the answer to a question at the end, is a cache that recalls. -/
theorem Recalls.append_last {kept : List (Question × Answer)}
    (recalls : cache.Recalls capacity fresh asked) (part : kept.Sublist cache.entries)
    (room : kept.length < capacity) (other : ∀ entry ∈ kept, entry.1 ≠ question) :
    ({ cache with entries := kept ++ [(question, fresh question)] } :
      RecencyCache Question Answer).Recalls capacity fresh (question :: asked) := by
  obtain ⟨same, ⟨bounded, distinct, known⟩, faithful⟩ := recalls
  refine ⟨same, ⟨?_, ?_, ?_⟩, ?_⟩
  · simpa only [size, List.length_append, List.length_singleton, Nat.succ_le_iff] using room
  · exact nodup_append_last ((part.map _).nodup distinct) other
  · simp only [questions, List.map_append, List.map_cons, List.map_nil]
    refine List.append_subset.mpr ⟨?_, by simp⟩
    exact fun key among => List.mem_cons_of_mem _ (known ((part.map _).subset among))
  · intro entry among
    rcases List.mem_append.mp among with old | last
    · exact faithful entry (part.subset old)
    · rw [List.mem_singleton.mp last]

variable [BEq Question] [LawfulBEq Question]

theorem mem_without {entry : Question × Answer} :
    entry ∈ cache.without question ↔ entry ∈ cache.entries ∧ entry.1 ≠ question := by
  simp [without]

theorem read?_eq_none_iff : cache.read? question = none ↔ question ∉ cache.questions := by
  rw [read?, Option.map_eq_none_iff, List.lookup_eq_none_iff]
  constructor
  · intro absent among
    obtain ⟨entry, held, same⟩ := List.mem_map.mp among
    exact bne_iff_ne.mp (absent entry held) same.symm
  · intro absent entry held
    exact bne_iff_ne.mpr fun same => absent (same ▸ List.mem_map_of_mem held)

theorem mem_of_read? (found : cache.read? question = some (answer, after)) :
    (question, answer) ∈ cache.entries ∧
      after = { cache with entries := cache.without question ++ [(question, answer)] } := by
  obtain ⟨held, looked, shape⟩ := Option.map_eq_some_iff.mp found
  cases shape
  obtain ⟨before, behind, split, -⟩ := List.lookup_eq_some_iff.mp looked
  exact ⟨by simp [split], rfl⟩

/-- A question is answered as if nothing were remembered, and what is remembered stays in order. -/
theorem Recalls.consult (recalls : cache.Recalls capacity fresh asked) (room : 0 < capacity)
    (question : Question) :
    ∃ after, cache.consult question (fun _ => fresh question) = (some (fresh question), after) ∧
      after.Recalls capacity fresh (question :: asked) := by
  unfold RecencyCache.consult
  cases read : cache.read? question with
  | some found =>
      obtain ⟨answer, after⟩ := found
      obtain ⟨among, rfl⟩ := mem_of_read? read
      have same : answer = fresh question := recalls.faithful _ among
      subst same
      have fewer : (cache.without question).length < cache.entries.length :=
        List.length_filter_lt_length_iff_exists.mpr ⟨_, among, by simp⟩
      exact ⟨_, rfl, recalls.append_last List.filter_sublist
        (Nat.lt_of_lt_of_le fewer recalls.tidy.bounded) fun entry inside =>
          (mem_without.mp inside).2⟩
  | none =>
      have absent := read?_eq_none_iff.mp read
      have writable : cache.capacity ≠ 0 := by
        rw [recalls.capacity_eq]
        omega
      simp only [write?, if_neg writable]
      refine ⟨_, rfl, recalls.append_last (List.drop_sublist _ _) ?_ fun entry inside same => ?_⟩
      · rw [List.length_drop, recalls.capacity_eq]
        omega
      · exact absent (same ▸ List.mem_map_of_mem (List.mem_of_mem_drop inside))

end ApiReview.RecencyCache
