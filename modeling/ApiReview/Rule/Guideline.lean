import ApiReview.Fault
import ApiReview.Finding
import ApiReview.Number.Integer

/-!
The numbered guidelines that rules enforce, and the category that a guideline's rules belong to.
-/

set_option autoImplicit false

namespace ApiReview.Guideline

open ApiReview.Text

/-- The digits at the front of a text behind the letters of a guideline's label and an optional
hyphen. -/
def labelDigits? (text : List Char) : Option (List Char) :=
  if (text.take 3).map Letter.fold == "aip".toList then
    let rest := text.drop 3
    let digits := (if rest.head? == some '-' then rest.drop 1 else rest).takeWhile Letter.isDecimal
    if digits.isEmpty then none else some digits
  else none

def firstLabelDigits? : List Char → Option (List Char)
  | [] => none
  | c :: rest => (labelDigits? (c :: rest)).or (firstLabelDigits? rest)

/-- The number that the first label in a text carries: both `AIP-122` and `aip122/plural-resources`
carry 122. A label with too many digits has no value. -/
def number? (text : String) : Except Fault (Option Nat) :=
  match firstLabelDigits? text.toList with
  | none => .ok none
  | some digits =>
    if Integer.isTooLong digits then .error .badValue else .ok (Integer.ofDigits? digits)

def categories : List (Nat × Category) :=
  [(122, .naming), (123, .naming), (131, .standardMethods), (132, .standardMethods),
   (133, .standardMethods), (134, .standardMethods), (135, .standardMethods),
   (136, .standardMethods), (155, .idempotency), (158, .pagination), (160, .filtering),
   (193, .errors), (194, .errors)]

/-- The category of the guideline that a text names; naming when it names none that is known. -/
def categoryOf (text? : Option String) : Except Fault Category := do
  match text? with
  | none => .ok .naming
  | some text =>
    let number? ← number? text
    .ok ((number?.bind fun number => categories.lookup number).getD .naming)

/-- What is published about a guideline. -/
structure Info where
  title : String
  summary : String
  category : Category

def catalogue : List (Nat × Info) :=
  [(122, ⟨"Resource Names", "Resource naming conventions", .naming⟩),
   (131, ⟨"Standard Methods: Get", "GET method conventions", .standardMethods⟩),
   (132, ⟨"Standard Methods: List", "List method conventions", .standardMethods⟩),
   (133, ⟨"Standard Methods: Create", "POST/create conventions", .standardMethods⟩),
   (134, ⟨"Standard Methods: Update", "PATCH/PUT conventions", .standardMethods⟩),
   (135, ⟨"Standard Methods: Delete", "DELETE method conventions", .standardMethods⟩),
   (155, ⟨"Request Identification", "Idempotency keys for safe retries", .idempotency⟩),
   (158, ⟨"Pagination", "List pagination with page tokens", .pagination⟩),
   (160, ⟨"Filtering", "Filter parameters for list methods", .filtering⟩),
   (193, ⟨"Errors", "Structured error responses", .errors⟩)]

def info? (number : Int) : Option Info :=
  if number < 0 then none else catalogue.lookup number.toNat

end ApiReview.Guideline
