import CatalogLint.Rule.Basic

/-!
# Rules from options

A rule is asked for by its name and options. `RuleOptions.rule` builds it, or tells what is
wrong with the options.
-/

namespace CatalogLint

/-- Why options do not make a rule. -/
inductive OptionError where
  /-- An option that the rule cannot do without is not there. -/
  | missingOptions
  /-- The minimum of translated messages is no number. -/
  | invalidMinimum (text : Text)
  /-- There are not as many header names as values. -/
  | unpairedHeaders
  /-- Metadata is forbidden and its headers are specified. -/
  | absenceWithHeaders
  /-- Metadata is forbidden and the usual headers are demanded. -/
  | absenceWithStandard
  /-- A value is no pattern. -/
  | invalidPattern
  deriving DecidableEq, Repr

/-- The wording of an error. -/
def OptionError.message : OptionError → Text
  | missingOptions => "required options are missing"
  | invalidMinimum text => "invalid minimum of translated messages: '" ++ text ++ "'"
  | unpairedHeaders => "each '--header' must be followed by a '--value'"
  | absenceWithHeaders =>
    "you must pass either '--no-metadata' or headers regexes specification, but not both"
  | absenceWithStandard =>
    "you must pass either '--no-metadata' or '--standard-headers', but not both"
  | invalidPattern => "regex parse error:"

/-- The options of the rule on metadata. -/
structure MetadataOptions where
  headers : List Text := []
  values : List Text := []
  standardHeaders : Bool := false
  noMetadata : Bool := false
  removeMetadata : Bool := false
  deriving DecidableEq, Repr

/-- The options of the rule on extracted comments. -/
structure CommentOptions where
  mark : Option Text := none
  replacement : Option Text := none
  translators : Bool := false
  dryRun : Bool := false
  deriving DecidableEq, Repr

namespace MetadataOptions

/-- The demand that the options make. -/
def demand (o : MetadataOptions) : Except OptionError MetadataDemand :=
  let absence := o.noMetadata || o.removeMetadata
  if o.headers.length ≠ o.values.length then .error .unpairedHeaders
  else if absence && !o.headers.isEmpty then .error .absenceWithHeaders
  else if absence && o.standardHeaders then .error .absenceWithStandard
  else if o.removeMetadata then .ok .removal
  else if o.noMetadata then .ok .absence
  else
    let start := if o.standardHeaders then HeaderSpec.standard? else some {}
    match start.bind (·.insertAll? (o.headers.zip o.values)) with
    | some spec => .ok (.fields spec)
    | none => .error .invalidPattern

end MetadataOptions

namespace CommentOptions

/-- The start of comments that the options name. -/
def start? (o : CommentOptions) : Option CommentStart :=
  if o.translators then some .translators
  else
    match o.mark, o.replacement with
    | some mark, some replacement => some (.literal mark replacement)
    | _, _ => none

end CommentOptions

/-- A rule and its options. -/
inductive RuleOptions where
  | obsolete
  | fuzzy
  | untranslated (minimum : Option Text)
  | entries (limits : Limits)
  | metadata (options : MetadataOptions)
  | comments (options : CommentOptions)
  deriving DecidableEq, Repr

namespace RuleOptions

/-- The requirement that the text of a minimum makes. -/
def requirement (text : Text) : Except OptionError Translation.Requirement :=
  match Threshold.ofText? text with
  | some threshold => .ok { threshold, text }
  | none => .error (.invalidMinimum text)

/-- The rule that the options ask for. -/
def rule : RuleOptions → Except OptionError Rule
  | obsolete => .ok .noObsolete
  | fuzzy => .ok .noFuzzy
  | untranslated none => .ok (.translated none)
  | untranslated (some text) => (requirement text).map fun r => .translated (some r)
  | entries limits =>
    if limits.messages.isNone && limits.lines.isNone then .error .missingOptions
    else .ok (.limited limits)
  | metadata options => options.demand.map .metadata
  | comments options =>
    match options.start? with
    | some start => .ok (.comments start options.dryRun)
    | none => .error .missingOptions

end RuleOptions

end CatalogLint
