/-!
Memories of bounded size, which forget the answer not used for longest.
-/

set_option autoImplicit false

namespace ApiReview

/-- A bounded memory of answers, the one used last at the end. -/
structure RecencyCache (Question Answer : Type) where
  capacity : Nat
  entries : List (Question × Answer)

namespace RecencyCache

variable {Question Answer : Type} [BEq Question]

/-- A cache that remembers nothing yet. -/
def empty (capacity : Nat) : RecencyCache Question Answer := ⟨capacity, []⟩

def size (cache : RecencyCache Question Answer) : Nat := cache.entries.length

def without (cache : RecencyCache Question Answer) (question : Question) :
    List (Question × Answer) :=
  cache.entries.filter fun entry => !(entry.1 == question)

/-- Looks up an answer, which makes it the one used last. -/
def read? (cache : RecencyCache Question Answer) (question : Question) :
    Option (Answer × RecencyCache Question Answer) :=
  (cache.entries.lookup question).map fun answer =>
    (answer, { cache with entries := cache.without question ++ [(question, answer)] })

/-- Writes an answer down; in a full cache the entry not used for longest makes room. Nothing can
be written to a cache of capacity zero. -/
def write? (cache : RecencyCache Question Answer) (question : Question) (answer : Answer) :
    Option (RecencyCache Question Answer) :=
  if cache.capacity = 0 then none
  else
    let kept := cache.entries.drop (cache.entries.length + 1 - cache.capacity)
    some { cache with entries := kept ++ [(question, answer)] }

/-- The cache with no answers left. -/
def clear (cache : RecencyCache Question Answer) : RecencyCache Question Answer :=
  { cache with entries := [] }

/-- The remembered answer, or the fresh one after it was written down. The answer is missing when
it could not be written. -/
def consult (cache : RecencyCache Question Answer) (question : Question)
    (fresh : Unit → Answer) : Option Answer × RecencyCache Question Answer :=
  match cache.read? question with
  | some (answer, cache) => (some answer, cache)
  | none =>
    let answer := fresh ()
    match cache.write? question answer with
    | some cache => (some answer, cache)
    | none => (none, cache)

end RecencyCache

end ApiReview
