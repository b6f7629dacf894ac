import ApiReview.Proofs.Word.RecencyCache
import ApiReview.Review
import ApiReview.Word.Memory

/-! A memory of answers about words makes no difference to the answers. What it
holds is what the lower case form of a word, and the context for verbs and nouns,
determine; the capital of an inflected word is put back after the look-up. So a
review may be given any memory, however it was used before. -/

set_option autoImplicit false

namespace ApiReview

open ApiReview.Text

/-! ## Calls -/

/-- What a memory is asked, or told. Contexts go by their names. -/
inductive WordCall
  | plural (word : String)
  | singular (word : String)
  | verb (word contextName : String)
  | noun (word contextName : String)
  | uncountable (word : String)
  | tag (word contextName : String)
  | analysis (word contextName : String)
  | clear
  deriving DecidableEq

/-- What a call gives back. -/
inductive WordReply
  | form (text : String)
  | flag (holds : Bool)
  | tag (tag : Tag)
  | analysis (analysis : WordAnalysis)
  | cleared
  deriving DecidableEq

namespace WordCall

/-- The words whose plural a call looks up. -/
def plurals : WordCall → List String
  | .plural word => [lower word]
  | _ => []

/-- The words whose singular a call looks up. -/
def singulars : WordCall → List String
  | .singular word => [lower word]
  | _ => []

/-- The words that a call looks up as verbs, with their contexts. -/
def verbs : WordCall → List (String × String)
  | .verb word contextName | .analysis word contextName => [(lower word, contextName)]
  | _ => []

/-- The words that a call looks up as nouns, with their contexts. -/
def nouns : WordCall → List (String × String)
  | .noun word contextName | .analysis word contextName => [(lower word, contextName)]
  | _ => []

/-- The words of which a call looks up whether they have a plural. -/
def uncountables : WordCall → List String
  | .uncountable word | .analysis word _ => [lower word]
  | _ => []

end WordCall

namespace WordMemory

/-- The reply to a call, unless it could not be written down, and the memory afterwards. -/
def call (memory : WordMemory) : WordCall → Reply WordReply
  | .plural word =>
    let (answer, after) := memory.pluralize word
    (answer.map .form, after)
  | .singular word =>
    let (answer, after) := memory.singularize word
    (answer.map .form, after)
  | .verb word contextName =>
    let (answer, after) := memory.isVerb word contextName
    (answer.map .flag, after)
  | .noun word contextName =>
    let (answer, after) := memory.isNoun word contextName
    (answer.map .flag, after)
  | .uncountable word =>
    let (answer, after) := memory.isUncountable word
    (answer.map .flag, after)
  | .tag word contextName => (some (.tag (WordMemory.tag word contextName)), memory)
  | .analysis word contextName =>
    let (answer, after) := memory.analyze word contextName
    (answer.map .analysis, after)
  | .clear => (some .cleared, memory.clear)

/-- The memory after some calls, one after the other. -/
def after (memory : WordMemory) (calls : List WordCall) : WordMemory :=
  calls.foldl (fun memory call => (memory.call call).2) memory

/-- No cache of the memory holds more answers than it may, or two to one question, or one to a
question that none of the calls asked. -/
structure IsTidy (memory : WordMemory) (capacity uncountableCapacity : Nat)
    (calls : List WordCall) : Prop where
  plurals : memory.plurals.IsTidy capacity (calls.flatMap WordCall.plurals)
  singulars : memory.singulars.IsTidy capacity (calls.flatMap WordCall.singulars)
  verbs : memory.verbs.IsTidy capacity (calls.flatMap WordCall.verbs)
  nouns : memory.nouns.IsTidy capacity (calls.flatMap WordCall.nouns)
  uncountables : memory.uncountables.IsTidy uncountableCapacity
    (calls.flatMap WordCall.uncountables)

end WordMemory

/-- The vocabulary of a memory that goes on changing: each question finds it at a moment of its
own. -/
def Vocabulary.recalled (moment : WordCall → WordMemory) : Vocabulary where
  isVerb word :=
    (moment (.verb word WordContext.pathName)).vocabulary.isVerb word
  isNoun word :=
    (moment (.noun word WordContext.pathName)).vocabulary.isNoun word
  isUncountable word := (moment (.uncountable word)).vocabulary.isUncountable word
  pluralize word := (moment (.plural word)).vocabulary.pluralize word
  singularize word := (moment (.singular word)).vocabulary.singularize word

/-! ## Answers without a memory -/

namespace WordCall

def verbReading (question : String × String) : Bool :=
  LowerWord.isVerb question.1 (WordContext.ofName question.2)

def nounReading (question : String × String) : Bool :=
  LowerWord.isNoun question.1 (WordContext.ofName question.2)

def reply : WordCall → WordReply
  | .plural word => .form (inflected LowerWord.pluralize word)
  | .singular word => .form (inflected LowerWord.singularize word)
  | .verb word contextName => .flag (verbReading (lower word, contextName))
  | .noun word contextName => .flag (nounReading (lower word, contextName))
  | .uncountable word => .flag (LowerWord.isUncountable (lower word))
  | .tag word contextName => .tag (WordMemory.tag word contextName)
  | .analysis word contextName =>
    .analysis ⟨verbReading (lower word, contextName), nounReading (lower word, contextName),
      LowerWord.isUncountable (lower word), WordMemory.tag word contextName⟩
  | .clear => .cleared

end WordCall

namespace WordMemory

/-- A memory whose caches are tidy and hold what the tables and rules say. -/
structure Recalls (memory : WordMemory) (capacity uncountableCapacity : Nat)
    (calls : List WordCall) : Prop where
  plurals : memory.plurals.Recalls capacity LowerWord.pluralize (calls.flatMap WordCall.plurals)
  singulars : memory.singulars.Recalls capacity LowerWord.singularize
    (calls.flatMap WordCall.singulars)
  verbs : memory.verbs.Recalls capacity WordCall.verbReading (calls.flatMap WordCall.verbs)
  nouns : memory.nouns.Recalls capacity WordCall.nounReading (calls.flatMap WordCall.nouns)
  uncountables : memory.uncountables.Recalls uncountableCapacity LowerWord.isUncountable
    (calls.flatMap WordCall.uncountables)

variable {memory : WordMemory} {capacity uncountableCapacity : Nat} {calls earlier : List WordCall}

theorem recalls_new :
    (new capacity uncountableCapacity).Recalls capacity uncountableCapacity [] :=
  ⟨RecencyCache.recalls_empty, RecencyCache.recalls_empty, RecencyCache.recalls_empty,
    RecencyCache.recalls_empty, RecencyCache.recalls_empty⟩

namespace Recalls

theorem isTidy (recalls : memory.Recalls capacity uncountableCapacity calls) :
    memory.IsTidy capacity uncountableCapacity calls :=
  ⟨recalls.plurals.tidy, recalls.singulars.tidy, recalls.verbs.tidy, recalls.nouns.tidy,
    recalls.uncountables.tidy⟩

theorem mono (recalls : memory.Recalls capacity uncountableCapacity earlier)
    (sub : earlier ⊆ calls) : memory.Recalls capacity uncountableCapacity calls := by
  have wider {Question : Type} (questions : WordCall → List Question) :
      earlier.flatMap questions ⊆ calls.flatMap questions := by
    intro question among
    obtain ⟨call, made, asks⟩ := List.mem_flatMap.mp among
    exact List.mem_flatMap.mpr ⟨call, sub made, asks⟩
  exact ⟨recalls.plurals.mono (wider _), recalls.singulars.mono (wider _),
    recalls.verbs.mono (wider _), recalls.nouns.mono (wider _),
    recalls.uncountables.mono (wider _)⟩

theorem clear_eq_new (recalls : memory.Recalls capacity uncountableCapacity calls) :
    memory.clear = new capacity uncountableCapacity := by
  simp only [clear, new, RecencyCache.clear_eq_empty, recalls.plurals.capacity_eq,
    recalls.singulars.capacity_eq, recalls.verbs.capacity_eq, recalls.nouns.capacity_eq,
    recalls.uncountables.capacity_eq]

/-! ## One call -/

theorem pluralize (recalls : memory.Recalls capacity uncountableCapacity calls)
    (room : 0 < capacity) (word : String) :
    ∃ after, memory.pluralize word = (some (inflected LowerWord.pluralize word), after) ∧
      after.Recalls capacity uncountableCapacity (.plural word :: calls) := by
  unfold WordMemory.pluralize inflected
  split
  · exact ⟨_, rfl, recalls.mono (List.subset_cons_self _ _)⟩
  · obtain ⟨_, answered, plurals⟩ := recalls.plurals.consult room (lower word)
    simp only [answered]
    exact ⟨_, rfl, plurals, recalls.singulars, recalls.verbs, recalls.nouns,
      recalls.uncountables⟩

theorem singularize (recalls : memory.Recalls capacity uncountableCapacity calls)
    (room : 0 < capacity) (word : String) :
    ∃ after, memory.singularize word = (some (inflected LowerWord.singularize word), after) ∧
      after.Recalls capacity uncountableCapacity (.singular word :: calls) := by
  unfold WordMemory.singularize inflected
  split
  · exact ⟨_, rfl, recalls.mono (List.subset_cons_self _ _)⟩
  · obtain ⟨_, answered, singulars⟩ := recalls.singulars.consult room (lower word)
    simp only [answered]
    exact ⟨_, rfl, recalls.plurals, singulars, recalls.verbs, recalls.nouns,
      recalls.uncountables⟩

theorem isVerb (recalls : memory.Recalls capacity uncountableCapacity calls)
    (room : 0 < capacity) (word contextName : String) :
    ∃ after, memory.isVerb word contextName =
        (some (WordCall.verbReading (lower word, contextName)), after) ∧
      after.Recalls capacity uncountableCapacity (.verb word contextName :: calls) := by
  obtain ⟨_, answered, verbs⟩ := recalls.verbs.consult room (lower word, contextName)
  simp only [WordCall.verbReading] at answered
  simp only [WordMemory.isVerb, answered]
  exact ⟨_, rfl, recalls.plurals, recalls.singulars, verbs, recalls.nouns,
    recalls.uncountables⟩

theorem isNoun (recalls : memory.Recalls capacity uncountableCapacity calls)
    (room : 0 < capacity) (word contextName : String) :
    ∃ after, memory.isNoun word contextName =
        (some (WordCall.nounReading (lower word, contextName)), after) ∧
      after.Recalls capacity uncountableCapacity (.noun word contextName :: calls) := by
  obtain ⟨_, answered, nouns⟩ := recalls.nouns.consult room (lower word, contextName)
  simp only [WordCall.nounReading] at answered
  simp only [WordMemory.isNoun, answered]
  exact ⟨_, rfl, recalls.plurals, recalls.singulars, recalls.verbs, nouns,
    recalls.uncountables⟩

theorem isUncountable (recalls : memory.Recalls capacity uncountableCapacity calls)
    (room : 0 < uncountableCapacity) (word : String) :
    ∃ after, memory.isUncountable word = (some (LowerWord.isUncountable (lower word)), after) ∧
      after.Recalls capacity uncountableCapacity (.uncountable word :: calls) := by
  obtain ⟨_, answered, uncountables⟩ := recalls.uncountables.consult room (lower word)
  simp only [WordMemory.isUncountable, answered]
  exact ⟨_, rfl, recalls.plurals, recalls.singulars, recalls.verbs, recalls.nouns,
    uncountables⟩

/-- An analysis asks three questions one after the other, and each of them is answered. -/
theorem analyze (recalls : memory.Recalls capacity uncountableCapacity calls)
    (room : 0 < capacity) (uncountableRoom : 0 < uncountableCapacity)
    (word contextName : String) :
    ∃ after, memory.analyze word contextName =
        (some ⟨WordCall.verbReading (lower word, contextName),
          WordCall.nounReading (lower word, contextName), LowerWord.isUncountable (lower word),
          WordMemory.tag word contextName⟩, after) ∧
      after.Recalls capacity uncountableCapacity (.analysis word contextName :: calls) := by
  obtain ⟨_, verb, afterVerb⟩ := recalls.isVerb room word contextName
  obtain ⟨_, noun, afterNoun⟩ := afterVerb.isNoun room word contextName
  obtain ⟨_, uncountable, last⟩ := afterNoun.isUncountable uncountableRoom word
  simp only [WordMemory.analyze, verb, noun, uncountable]
  exact ⟨_, rfl, last.plurals, last.singulars, last.verbs, last.nouns, last.uncountables⟩

/-- A call is answered by the tables and rules, and what the memory recalls afterwards is right. -/
theorem call (recalls : memory.Recalls capacity uncountableCapacity calls)
    (room : 0 < capacity) (uncountableRoom : 0 < uncountableCapacity) (asked : WordCall) :
    ∃ after, memory.call asked = (some asked.reply, after) ∧
      after.Recalls capacity uncountableCapacity (asked :: calls) := by
  cases asked with
  | plural word =>
      obtain ⟨_, answered, next⟩ := recalls.pluralize room word
      exact ⟨_, by simp only [WordMemory.call, answered]; rfl, next⟩
  | singular word =>
      obtain ⟨_, answered, next⟩ := recalls.singularize room word
      exact ⟨_, by simp only [WordMemory.call, answered]; rfl, next⟩
  | verb word contextName =>
      obtain ⟨_, answered, next⟩ := recalls.isVerb room word contextName
      exact ⟨_, by simp only [WordMemory.call, answered]; rfl, next⟩
  | noun word contextName =>
      obtain ⟨_, answered, next⟩ := recalls.isNoun room word contextName
      exact ⟨_, by simp only [WordMemory.call, answered]; rfl, next⟩
  | uncountable word =>
      obtain ⟨_, answered, next⟩ := recalls.isUncountable uncountableRoom word
      exact ⟨_, by simp only [WordMemory.call, answered]; rfl, next⟩
  | tag word contextName =>
      exact ⟨_, rfl, recalls.mono (List.subset_cons_self _ _)⟩
  | analysis word contextName =>
      obtain ⟨_, answered, next⟩ := recalls.analyze room uncountableRoom word contextName
      exact ⟨_, by simp only [WordMemory.call, answered]; rfl, next⟩
  | clear =>
      exact ⟨_, rfl, by
        rw [recalls.clear_eq_new]
        exact recalls_new.mono (List.nil_subset _)⟩

/-! ## Many calls -/

theorem after (room : 0 < capacity) (uncountableRoom : 0 < uncountableCapacity) :
    ∀ {calls earlier : List WordCall} {memory : WordMemory},
      memory.Recalls capacity uncountableCapacity earlier →
        (memory.after calls).Recalls capacity uncountableCapacity (calls ++ earlier) := by
  intro calls
  induction calls with
  | nil => exact id
  | cons asked rest ih =>
      intro earlier memory recalls
      obtain ⟨next, called, further⟩ := recalls.call room uncountableRoom asked
      have step : memory.after (asked :: rest) = next.after rest := by
        rw [WordMemory.after, List.foldl_cons, called, WordMemory.after]
      rw [step]
      exact (ih further).mono (by grind)

end Recalls

theorem recalls_after (room : 0 < capacity) (uncountableRoom : 0 < uncountableCapacity)
    (calls : List WordCall) :
    ((new capacity uncountableCapacity).after calls).Recalls capacity uncountableCapacity calls :=
  (recalls_new.after room uncountableRoom).mono (by simp)

/-! ## Reviews -/

theorem vocabulary_eq (recalls : memory.Recalls capacity uncountableCapacity calls)
    (room : 0 < capacity) (uncountableRoom : 0 < uncountableCapacity) :
    memory.vocabulary = Vocabulary.standard := by
  unfold vocabulary Vocabulary.standard
  congr 1 <;> funext word
  · obtain ⟨_, answered, -⟩ := recalls.isVerb room word WordContext.pathName
    rw [answered]
    rfl
  · obtain ⟨_, answered, -⟩ := recalls.isNoun room word WordContext.pathName
    rw [answered]
    rfl
  · obtain ⟨_, answered, -⟩ := recalls.isUncountable uncountableRoom word
    rw [answered]
    rfl
  · obtain ⟨_, answered, -⟩ := recalls.pluralize room word
    rw [answered]
    rfl
  · obtain ⟨_, answered, -⟩ := recalls.singularize room word
    rw [answered]
    rfl

theorem recalled_eq (room : 0 < capacity) (uncountableRoom : 0 < uncountableCapacity)
    (history : WordCall → List WordCall) :
    Vocabulary.recalled (fun asked => (new capacity uncountableCapacity).after (history asked)) =
      Vocabulary.standard := by
  simp only [Vocabulary.recalled,
    fun calls => vocabulary_eq (recalls_after room uncountableRoom calls) room uncountableRoom]

end WordMemory

/-- Whatever a memory was asked before, a call gives the answer of a new memory, leaves no cache
with too many answers or two to one question, and clearing leaves a new memory. So reviews come
out the same with a memory that was used before and goes on being used. -/
theorem memory_is_invisible (capacity uncountableCapacity : Nat) (room : 0 < capacity)
    (uncountableRoom : 0 < uncountableCapacity) :
    (∀ (calls : List WordCall) (asked : WordCall),
      let memory := (WordMemory.new capacity uncountableCapacity).after calls
      (memory.call asked).1.isSome ∧
        (memory.call asked).1 =
          ((WordMemory.new capacity uncountableCapacity).call asked).1 ∧
        (memory.call asked).2.IsTidy capacity uncountableCapacity (asked :: calls) ∧
        (asked = .clear →
          (memory.call asked).2 = WordMemory.new capacity uncountableCapacity)) ∧
    ∀ (history : WordCall → List WordCall) (reviewer : Reviewer) (spec : Node)
      (specPath? : Option String),
      let moment := fun asked => (WordMemory.new capacity uncountableCapacity).after (history asked)
      { reviewer with vocabulary := .recalled moment }.review spec specPath? =
        { reviewer with
          vocabulary := (WordMemory.new capacity uncountableCapacity).vocabulary }.review spec
            specPath? := by
  refine ⟨fun calls asked => ?_, fun history reviewer spec specPath? => ?_⟩
  · intro memory
    have recalls : memory.Recalls capacity uncountableCapacity calls :=
      WordMemory.recalls_after room uncountableRoom calls
    obtain ⟨later, called, further⟩ := recalls.call room uncountableRoom asked
    obtain ⟨_, fresh, -⟩ := WordMemory.recalls_new.call room uncountableRoom asked
    refine ⟨by rw [called]; rfl, by rw [called, fresh], by rw [called]; exact further.isTidy, ?_⟩
    rintro rfl
    exact recalls.clear_eq_new
  · simp only [WordMemory.recalled_eq room uncountableRoom,
      WordMemory.vocabulary_eq WordMemory.recalls_new room uncountableRoom]

/-- Memories for a single word, where the second word pushes out the first. -/
theorem memory_is_invisible_single :
    0 < 1 ∧
      let memory := (WordMemory.new 1 1).after [.plural "Box", .verb "logs" "general", .plural "child"]
      (memory.call (.plural "BOX")).1 = some (.form "Boxes") ∧
        (memory.call (.plural "BOX")).2.plurals.questions = ["box"] ∧
        (memory.call .clear).2 = WordMemory.new 1 1 := by
  have invisible := (memory_is_invisible 1 1 Nat.one_pos Nat.one_pos).1
    [.plural "Box", .verb "logs" "general", .plural "child"]
  refine ⟨Nat.one_pos, ?_, by decide +kernel, (invisible .clear).2.2.2 rfl⟩
  rw [(invisible (.plural "BOX")).2.1]
  decide +kernel

end ApiReview
