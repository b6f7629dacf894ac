import ApiReview.Word.RecencyCache
import ApiReview.Word.Vocabulary

/-!
Answers about words with a memory of earlier ones. Each kind of question has a cache of its own. A
question is looked up first and otherwise answered afresh and written down; a cache without room
for a single answer refuses the writing.
-/

set_option autoImplicit false

namespace ApiReview

open ApiReview.Text

/-- One cache for each kind of question. Plurals, singulars and countability are remembered per
lower case word, verb and noun readings per word and context. -/
structure WordMemory where
  plurals : RecencyCache String String
  singulars : RecencyCache String String
  verbs : RecencyCache (String × String) Bool
  nouns : RecencyCache (String × String) Bool
  uncountables : RecencyCache String Bool

/-- The context that a name stands for; every name but that of the path context reads as the
general one. -/
def WordContext.ofName (name : String) : WordContext :=
  if name = "api-path" then .path else .general

def WordContext.pathName : String := "api-path"

namespace WordMemory

/-- A memory that remembers nothing yet. -/
def new (capacity uncountableCapacity : Nat) : WordMemory where
  plurals := .empty capacity
  singulars := .empty capacity
  verbs := .empty capacity
  nouns := .empty capacity
  uncountables := .empty uncountableCapacity

def standard : WordMemory := new 2000 500

/-- What a question gives: the answer, unless it could not be written down, and the memory
afterwards. -/
abbrev Reply (Answer : Type) := Option Answer × WordMemory

/-- The part of speech of a word; nothing is remembered for it. -/
def tag (word contextName : String) : Tag :=
  LowerWord.tag (lower word) (WordContext.ofName contextName)

def isVerb (memory : WordMemory) (word contextName : String) : Reply Bool :=
  let word := lower word
  let (answer, verbs) := memory.verbs.consult (word, contextName) fun _ =>
    LowerWord.isVerb word (WordContext.ofName contextName)
  (answer, { memory with verbs })

def isNoun (memory : WordMemory) (word contextName : String) : Reply Bool :=
  let word := lower word
  let (answer, nouns) := memory.nouns.consult (word, contextName) fun _ =>
    LowerWord.isNoun word (WordContext.ofName contextName)
  (answer, { memory with nouns })

/-- Whether a word has no plural. -/
def isUncountable (memory : WordMemory) (word : String) : Reply Bool :=
  let word := lower word
  let (answer, uncountables) := memory.uncountables.consult word fun _ =>
    LowerWord.isUncountable word
  (answer, { memory with uncountables })

/-- The plural of a word; nothing is remembered for the empty word. -/
def pluralize (memory : WordMemory) (word : String) : Reply String :=
  if word.isEmpty then (some word, memory)
  else
    let small := lower word
    let (answer, plurals) := memory.plurals.consult small fun _ => LowerWord.pluralize small
    (answer.map (matchCapital word), { memory with plurals })

/-- The singular of a word; nothing is remembered for the empty word. -/
def singularize (memory : WordMemory) (word : String) : Reply String :=
  if word.isEmpty then (some word, memory)
  else
    let small := lower word
    let (answer, singulars) := memory.singulars.consult small fun _ =>
      LowerWord.singularize small
    (answer.map (matchCapital word), { memory with singulars })

/-- All answers about a word. Questions after one whose answer could not be written down are not
asked. -/
def analyze (memory : WordMemory) (word contextName : String) : Reply WordAnalysis :=
  match memory.isVerb word contextName with
  | (none, memory) => (none, memory)
  | (some verb, memory) =>
    match memory.isNoun word contextName with
    | (none, memory) => (none, memory)
    | (some noun, memory) =>
      match memory.isUncountable word with
      | (none, memory) => (none, memory)
      | (some uncountable, memory) =>
        (some ⟨verb, noun, uncountable, tag word contextName⟩, memory)

def clear (memory : WordMemory) : WordMemory where
  plurals := memory.plurals.clear
  singulars := memory.singulars.clear
  verbs := memory.verbs.clear
  nouns := memory.nouns.clear
  uncountables := memory.uncountables.clear

/-- The vocabulary as the memory answers it at this moment, remembered answers first. -/
def vocabulary (memory : WordMemory) : Vocabulary where
  isVerb word :=
    (memory.isVerb word WordContext.pathName).1.getD (Vocabulary.standard.isVerb word)
  isNoun word :=
    (memory.isNoun word WordContext.pathName).1.getD (Vocabulary.standard.isNoun word)
  isUncountable word :=
    (memory.isUncountable word).1.getD (Vocabulary.standard.isUncountable word)
  pluralize word := (memory.pluralize word).1.getD (Vocabulary.standard.pluralize word)
  singularize word := (memory.singularize word).1.getD (Vocabulary.standard.singularize word)

end WordMemory

end ApiReview
