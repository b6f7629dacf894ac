/-!
Word tables of the vocabulary that interface paths are written in. A general tagger is unreliable
on the short words of a path, so these tables are consulted first. All entries are lower case.
-/

set_option autoImplicit false

namespace ApiReview.Lexicon

/-- Words of interface paths that have no plural. -/
def pathUncountables : List String :=
  ["data", "metadata", "auth", "config", "settings", "api", "graphql", "oauth", "jwt", "cors",
   "software", "hardware", "firmware", "middleware"]

/-- Words of the language at large that have no plural. -/
def generalUncountables : List String :=
  ["equipment", "fish", "information", "jeans", "money", "rice", "series", "sheep", "species"]

/-- Singulars whose plural follows no rule, each with its plural. -/
def irregularNouns : List (String × String) :=
  [("person", "people"), ("child", "children"), ("man", "men"), ("woman", "women"),
   ("tooth", "teeth"), ("foot", "feet"), ("mouse", "mice"), ("goose", "geese"), ("ox", "oxen"),
   ("leaf", "leaves"), ("life", "lives"), ("knife", "knives"), ("wife", "wives"),
   ("shelf", "shelves"), ("self", "selves"), ("calf", "calves"), ("loaf", "loaves"),
   ("wolf", "wolves"), ("half", "halves"), ("elf", "elves"), ("thief", "thieves"),
   ("index", "indices"), ("vertex", "vertices"), ("matrix", "matrices"),
   ("appendix", "appendices"), ("crisis", "crises"), ("analysis", "analyses"),
   ("basis", "bases"), ("thesis", "theses"), ("diagnosis", "diagnoses"),
   ("hypothesis", "hypotheses"), ("parenthesis", "parentheses"), ("synopsis", "synopses"),
   ("oasis", "oases"), ("criterion", "criteria"), ("phenomenon", "phenomena"),
   ("datum", "data"), ("medium", "media"), ("curriculum", "curricula"),
   ("memorandum", "memoranda"), ("stadium", "stadiums"), ("bacterium", "bacteria"),
   ("schema", "schemas"), ("antenna", "antennas"), ("formula", "formulas")]

/-- Action verbs that commonly show up as path segments. -/
def actionVerbs : List String :=
  ["get", "set", "put", "post", "delete", "create", "update", "remove", "add", "fetch", "send",
   "receive", "validate", "verify", "check", "process", "handle", "execute", "run", "start",
   "stop", "cancel", "submit", "approve", "reject", "activate", "deactivate", "enable",
   "disable", "sync", "import", "export", "upload", "download", "search", "find", "list",
   "show", "hide", "open", "close", "login", "logout", "register", "unregister", "subscribe",
   "unsubscribe", "connect", "disconnect", "attach", "detach", "link", "unlink", "bind",
   "unbind", "lock", "unlock", "archive", "restore", "retry", "refresh", "reload", "reset",
   "clear", "flush", "purge", "revoke", "grant", "deny", "allow", "block", "ban", "mute",
   "unmute", "pin", "unpin", "flag", "unflag", "mark", "unmark", "tag", "untag", "assign",
   "unassign", "transfer", "move", "copy", "clone", "duplicate", "merge", "split", "join",
   "leave", "invite", "accept", "decline", "confirm", "acknowledge", "dismiss", "notify",
   "alert", "warn", "resolve", "escalate", "prioritize", "schedule", "reschedule", "pause",
   "resume", "skip", "reorder", "sort", "filter", "group", "ungroup", "expand", "collapse",
   "zoom", "rotate", "flip", "crop", "resize", "scale", "convert", "transform", "translate",
   "encode", "decode", "encrypt", "decrypt", "compress", "decompress", "serialize",
   "deserialize", "parse", "render", "compile", "build", "deploy", "publish", "unpublish",
   "release", "rollback", "migrate", "seed", "initialize", "finalize", "complete", "fail",
   "succeed", "expire", "renew", "extend", "shorten", "truncate", "trim", "pad", "format",
   "normalize", "sanitize", "escape", "unescape", "quote", "unquote", "wrap", "unwrap",
   "inject", "extract", "embed", "insert", "append", "prepend", "replace", "swap", "increment",
   "decrement", "increase", "decrease", "raise", "lower", "boost", "reduce", "limit",
   "throttle", "rate", "cap", "uncap"]

def irregularPlural? (singular : String) : Option String := irregularNouns.lookup singular

def irregularSingular? (plural : String) : Option String :=
  (irregularNouns.map fun (singular, plural) => (plural, singular)).lookup plural

end ApiReview.Lexicon
