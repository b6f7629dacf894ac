import ApiReview.CodeLocation
import ApiReview.Settings
import ApiReview.Validation.Scalar

/-!
Checks of the records that come from outside: changes, fixes, findings, results, code locations
and settings. A field goes by its name in records first and then by its plain name.
-/

set_option autoImplicit false

namespace ApiReview.Checker

def severity : Checker Severity := named .notListed Severity.ofName?

def category : Checker Category := named .notListed Category.ofName?

def change : Checker Change :=
  record fun members =>
    Change.mk <$> members.field ["operation"] (named .notListed ChangeKind.ofName?) none
      <*> members.field ["path"] text none
      <*> members.field ["from", "from_"] (optional text) (some none)
      <*> members.field ["to"] (optional text) (some none)
      <*> members.field ["value"] anything (some .null)

def fix : Checker Fix :=
  record fun members =>
    Fix.mk <$> members.field ["type"] (named .notListed FixKind.ofName?) none
      <*> members.field ["jsonPath", "json_path"] text none
      <*> members.field ["target"] (optional mapping) (some none)
      <*> members.field ["replacement"] anything (some .null)
      <*> members.field ["specChanges", "spec_changes"] (list change) (some [])

def findingFields (members : Members) : Checked Finding :=
  Finding.mk <$> members.field ["ruleId", "rule_id"] text none
    <*> members.field ["severity"] severity none
    <*> members.field ["category"] category none
    <*> members.field ["path"] text none
    <*> members.field ["message"] text none
    <*> members.field ["aip"] (optional text) (some none)
    <*> members.field ["suggestion"] (optional text) (some none)
    <*> members.field ["jsonPath", "json_path"] (optional text) (some none)
    <*> members.field ["context"] (optional mapping) (some none)
    <*> members.field ["fix"] (optional fix) (some none)

def finding : Checker Finding := record findingFields

def summary : Checker Summary :=
  record fun members =>
    Summary.mk <$> members.field ["errors"] whole (some 0)
      <*> members.field ["warnings"] whole (some 0)
      <*> members.field ["suggestions"] whole (some 0)
      <*> members.field ["byCategory", "by_category"] (mappingOf whole) (some [])

def metadata : Checker ReviewMetadata :=
  record fun members =>
    ReviewMetadata.mk <$> members.field ["reviewerVersion", "reviewer_version"] text none
      <*> members.field ["rulesApplied", "rules_applied"] whole none

def reviewResult : Checker ReviewResult :=
  record fun members =>
    ReviewResult.mk <$> members.field ["specPath", "spec_path"] (optional text) (some none)
      <*> members.field ["specTitle", "spec_title"] (optional text) (some none)
      <*> members.field ["specVersion", "spec_version"] (optional text) (some none)
      <*> members.field ["findings"] (list finding) none
      <*> members.field ["summary"] summary none
      <*> members.field ["metadata"] metadata none

def codeLocation : Checker CodeLocation :=
  record fun members =>
    CodeLocation.mk <$> members.field ["file"] text none
      <*> members.field ["line"] (optional whole) (some none)
      <*> members.field ["type"] (named .notListed CodeRole.ofName?) none
      <*> members.field ["confidence"] share (some (.ofInt 1))

def locatedFinding : Checker LocatedFinding :=
  record fun members =>
    LocatedFinding.mk <$> findingFields members
      <*> members.field ["codeLocations", "code_locations"] (list codeLocation) (some [])

def optionNames : List String :=
  ["strict", "categories", "skip_rules", "on_rule_error", "singleton_endpoints",
   "propose_patch_operation"]

/-- Takes records of options, which have no other fields. -/
def settings : Checker Settings :=
  record fun members =>
    let usual : Settings := {}
    let options :=
      Settings.mk <$> members.field ["strict"] flag (some usual.strict)
        <*> members.field ["categories"] (optional (list category)) (some usual.categories?)
        <*> members.field ["skip_rules"] (list text) (some usual.skipRules)
        <*> members.field ["on_rule_error"] (named .noSuchLiteral FailurePolicy.ofName?)
          (some usual.onRuleError)
        <*> members.field ["singleton_endpoints"] (set text) (some usual.singletonEndpoints)
        <*> members.field ["propose_patch_operation"] flag (some usual.proposePatchOperation)
    (fun result _ => result) <$> options <*> members.onlyFields optionNames

end ApiReview.Checker
