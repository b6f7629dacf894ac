import ApiReview.Proofs.Word.Memory

/-! Verbs and nouns in a path. A determiner before a word turns its base and third
person forms into nouns, and nothing else: no word is both in one context, a verb in a
path is a verb anywhere, and a noun anywhere is a noun in a path. -/

set_option autoImplicit false

namespace ApiReview

open ApiReview.Text

/-! ## Tags -/

namespace Tag

variable {tag : Tag}

def isSwitched : Tag → Bool
  | .baseVerb | .thirdPersonVerb => true
  | _ => false

theorem isNoun_of_isVerb (verb : tag.isVerb = true) : tag.isNoun = false := by
  cases tag with
  | baseVerb => rfl
  | pastVerb => rfl
  | thirdPersonVerb => rfl
  | _ => cases verb

theorem isNoun_afterDeterminer : tag.afterDeterminer.isNoun = (tag.isNoun || tag.isSwitched) := by
  cases tag <;> rfl

theorem isVerb_of_isSwitched (switched : tag.isSwitched = true) : tag.isVerb = true := by
  cases tag with
  | baseVerb => rfl
  | thirdPersonVerb => rfl
  | _ => cases switched

end Tag

/-! ## Words -/

namespace LowerWord

variable {word : String} {context : WordContext}

theorem not_actionVerb_of_pathUncountable : ∀ word ∈ Lexicon.pathUncountables,
    Lexicon.actionVerbs.contains word = false := by decide +kernel

/-- A word that neither table decides, so that its tag does. -/
structure IsOpen (word : String) : Prop where
  noVerb : word ∉ Lexicon.actionVerbs
  countable : word ∉ Lexicon.pathUncountables

theorem isVerb_of_isOpen (unlisted : IsOpen word) :
    isVerb word .general = (tag word .general).isVerb ∧
      isVerb word .path = ((tag word .general).isVerb && !(tag word .path).isNoun) := by
  have noVerb : Lexicon.actionVerbs.contains word = false := by simpa using unlisted.noVerb
  have countable : Lexicon.pathUncountables.contains word = false := by
    simpa using unlisted.countable
  unfold isVerb
  cases verb : (tag word .general).isVerb with
  | true => simp only [noVerb, countable, Bool.not_true, Bool.false_eq_true, if_false,
      Bool.true_and, and_self]
  | false => simp only [noVerb, countable, Bool.not_false, Bool.false_eq_true, if_false, if_true,
      Bool.false_and, and_self]

theorem isNoun_of_isOpen (unlisted : IsOpen word) :
    isNoun word context = (tag word context).isNoun := by
  unfold isNoun
  rw [if_neg (by simpa using unlisted.countable), if_neg (by simpa using unlisted.noVerb)]

/-- The tables decide alike in every context. -/
theorem readings_of_listed (listed : ¬ IsOpen word) :
    (∀ context, isVerb word context = true ∧ isNoun word context = false) ∨
      ∀ context, isVerb word context = false ∧ isNoun word context = true := by
  by_cases verb : word ∈ Lexicon.actionVerbs
  · left
    have countable : word ∉ Lexicon.pathUncountables := by
      intro uncountable
      have other := not_actionVerb_of_pathUncountable word uncountable
      simp [verb] at other
    intro context
    simp [isVerb, isNoun, verb, countable]
  · right
    have uncountable : word ∈ Lexicon.pathUncountables := by
      by_contra countable
      exact listed ⟨verb, countable⟩
    intro context
    simp [isVerb, isNoun, verb, uncountable]

theorem not_isNoun_of_isVerb (verb : isVerb word context = true) : isNoun word context = false := by
  by_cases unlisted : IsOpen word
  · rw [isNoun_of_isOpen unlisted]
    cases context with
    | path =>
        rw [(isVerb_of_isOpen unlisted).2, Bool.and_eq_true, Bool.not_eq_true'] at verb
        exact verb.2
    | general =>
        rw [(isVerb_of_isOpen unlisted).1] at verb
        exact Tag.isNoun_of_isVerb verb
  · rcases readings_of_listed unlisted with verbs | nouns
    · exact (verbs context).2
    · rw [(nouns context).1] at verb
      cases verb

theorem isVerb_of_path (verb : isVerb word .path = true) : isVerb word context = true := by
  by_cases unlisted : IsOpen word
  · cases context with
    | path => exact verb
    | general =>
        rw [(isVerb_of_isOpen unlisted).2, Bool.and_eq_true] at verb
        rw [(isVerb_of_isOpen unlisted).1]
        exact verb.1
  · rcases readings_of_listed unlisted with verbs | nouns
    · exact (verbs context).1
    · rw [(nouns .path).1] at verb
      cases verb

theorem isNoun_path (noun : isNoun word context = true) : isNoun word .path = true := by
  by_cases unlisted : IsOpen word
  · rw [isNoun_of_isOpen unlisted] at noun
    rw [isNoun_of_isOpen unlisted]
    cases context with
    | path => exact noun
    | general =>
        rw [tag, Tag.isNoun_afterDeterminer, Bool.or_eq_true]
        exact .inl noun
  · rcases readings_of_listed unlisted with verbs | nouns
    · rw [(verbs context).2] at noun
      cases noun
    · exact (nouns .path).2

/-- The words that are verbs elsewhere and nouns in a path are those that neither table decides and
that carry the tag of a base or third person form. -/
theorem moves_iff : isVerb word .general = true ∧ isNoun word .path = true ↔
    IsOpen word ∧ (tag word .general).isSwitched = true := by
  constructor
  · rintro ⟨verb, noun⟩
    by_cases unlisted : IsOpen word
    · rw [(isVerb_of_isOpen unlisted).1] at verb
      rw [isNoun_of_isOpen unlisted, tag, Tag.isNoun_afterDeterminer, Bool.or_eq_true] at noun
      refine ⟨unlisted, noun.resolve_left fun noun => ?_⟩
      have other := Tag.isNoun_of_isVerb verb
      rw [tag, noun] at other
      cases other
    · rcases readings_of_listed unlisted with verbs | nouns
      · rw [(verbs .path).2] at noun
        cases noun
      · rw [(nouns .general).1] at verb
        cases verb
  · rintro ⟨unlisted, switched⟩
    have verb := Tag.isVerb_of_isSwitched switched
    constructor
    · rw [(isVerb_of_isOpen unlisted).1]
      exact verb
    · rw [isNoun_of_isOpen unlisted, tag, Tag.isNoun_afterDeterminer, Bool.or_eq_true]
      exact .inr switched

end LowerWord

/-! ## Answers -/

/-- What a memory says of a word in the contexts of a path and of general text, whatever it was
asked before. No word is a verb and a noun in one context. From general text to a path verbs become
nouns and never the other way round, and those that do are the words in neither table whose tag is
that of a base or third person form. -/
theorem determiner_moves_verbs_to_nouns {capacity uncountableCapacity : Nat} (room : 0 < capacity)
    (uncountableRoom : 0 < uncountableCapacity) (calls : List WordCall) (word : String) :
    let memory := (WordMemory.new capacity uncountableCapacity).after calls
    let isVerb (contextName : String) := (memory.isVerb word contextName).1 = some true
    let isNoun (contextName : String) := (memory.isNoun word contextName).1 = some true
    let general := WordMemory.tag word "general"
    (∀ contextName, ¬ (isVerb contextName ∧ isNoun contextName)) ∧
      (isVerb "api-path" → isVerb "general") ∧ (isNoun "general" → isNoun "api-path") ∧
      (isVerb "general" ∧ isNoun "api-path" ∧ ¬ isVerb "api-path" ↔
        (lower word ∉ Lexicon.actionVerbs ∧ lower word ∉ Lexicon.pathUncountables) ∧
          (general = .baseVerb ∨ general = .thirdPersonVerb)) := by
  intro memory isVerb isNoun general
  have recalls := WordMemory.recalls_after room uncountableRoom calls
  have verbs (contextName : String) : isVerb contextName ↔
      LowerWord.isVerb (lower word) (WordContext.ofName contextName) = true := by
    obtain ⟨after, answered, -⟩ := recalls.isVerb room word contextName
    simp only [isVerb, memory, answered, Option.some.injEq, WordCall.verbReading]
  have nouns (contextName : String) : isNoun contextName ↔
      LowerWord.isNoun (lower word) (WordContext.ofName contextName) = true := by
    obtain ⟨after, answered, -⟩ := recalls.isNoun room word contextName
    simp only [isNoun, memory, answered, Option.some.injEq, WordCall.nounReading]
  simp only [verbs, nouns]
  have path : WordContext.ofName "api-path" = .path := rfl
  have elsewhere : WordContext.ofName "general" = .general := rfl
  rw [path, elsewhere]
  refine ⟨?_, LowerWord.isVerb_of_path, LowerWord.isNoun_path, ?_⟩
  · intro contextName both
    obtain ⟨verb, noun⟩ := both
    rw [LowerWord.not_isNoun_of_isVerb verb] at noun
    cases noun
  · have switched : general = .baseVerb ∨ general = .thirdPersonVerb ↔
        (LowerWord.tag (lower word) .general).isSwitched = true := by
      change LowerWord.tag (lower word) .general = _ ∨ LowerWord.tag (lower word) .general = _ ↔ _
      cases LowerWord.tag (lower word) .general <;> decide
    rw [switched]
    constructor
    · rintro ⟨verb, noun, -⟩
      obtain ⟨unlisted, tagged⟩ := LowerWord.moves_iff.mp ⟨verb, noun⟩
      exact ⟨⟨unlisted.noVerb, unlisted.countable⟩, tagged⟩
    · rintro ⟨⟨noVerb, countable⟩, tagged⟩
      obtain ⟨verb, noun⟩ := LowerWord.moves_iff.mpr ⟨⟨noVerb, countable⟩, tagged⟩
      refine ⟨verb, noun, fun also => ?_⟩
      rw [LowerWord.not_isNoun_of_isVerb also] at noun
      cases noun

/-- A third person form that ends like a plural, in a memory for a single word. -/
theorem determiner_moves_verbs_to_nouns_updates :
    0 < 1 ∧
      let memory := (WordMemory.new 1 1).after [.verb "Updates" "general", .noun "logs" "api-path"]
      (memory.isVerb "Updates" "general").1 = some true ∧
        (memory.isNoun "Updates" "api-path").1 = some true ∧
        ¬ (memory.isVerb "Updates" "api-path").1 = some true := by
  refine ⟨Nat.one_pos, ?_⟩
  have moves := determiner_moves_verbs_to_nouns Nat.one_pos Nat.one_pos
    [.verb "Updates" "general", .noun "logs" "api-path"] "Updates"
  have noVerb : lower "Updates" ∉ Lexicon.actionVerbs := by decide +kernel
  have countable : lower "Updates" ∉ Lexicon.pathUncountables := by decide +kernel
  have tagged : WordMemory.tag "Updates" "general" = .thirdPersonVerb := by decide +kernel
  exact moves.2.2.2.mpr ⟨⟨noVerb, countable⟩, .inr tagged⟩

end ApiReview
