import Killswitch.Expression.Rule

/-!
# The grammar of expressions

The rules of expressions, from what binds least to what binds most, and the rules for their misuse.

**Contents.**
* `Rule.alternatives`: the alternatives of each rule, in their order.
-/

namespace Killswitch
namespace Expression
namespace Grammar

open Branch

/-! ## Expressions -/

/-- Items with commas between, a tuple if there is a comma at all. -/
def tupleOf (r : Rule) : List Branch := [
  node .tuple [r, .several (.choice [[",", r]]), .maybe ","],
  node .tuple [r, ","],
  through [r]]

/-- Two values with an operator between, or one that binds more. -/
def binary (r tighter : Rule) (operators : List String) : List Branch :=
  operators.map (fun op => node (.binary op) [r, op, tighter]) ++ [through [tighter]]

/-- A value for a condition, and another value. -/
def conditional : Branch :=
  node .conditional [Rule.disjunction, "if", Rule.disjunction, "else", Rule.expression]

/-- What a value can be compared with. -/
def comparisons : List Branch := [
  node (.compared false) [.choice [["==", Rule.bitOr]]],
  node (.compared false) [.choice [["!=", Rule.bitOr]]],
  node (.compared false) [.choice [["<=", Rule.bitOr]]],
  node (.compared false) [.choice [["<", Rule.bitOr]]],
  node (.compared false) [.choice [[">=", Rule.bitOr]]],
  node (.compared false) [.choice [[">", Rule.bitOr]]],
  node (.compared false) [.choice [["not", "in", Rule.bitOr]]],
  node (.compared true) [.choice [["in", Rule.bitOr]]],
  node (.compared false) [.choice [["is", "not", Rule.bitOr]]],
  node (.compared false) [.choice [["is", Rule.bitOr]]]]

/-- A value with a name, or an expression. -/
def namedOrBare : Item :=
  .choice [[Rule.naming], [Rule.expression, .notFollowedBy ":="]]

/-- Arguments without names. -/
def plainArguments : Item :=
  .listed (.choice [[Rule.starredArgument], [namedOrBare, .notFollowedBy "="]])

/-- A part of a comprehension, behind the word that starts it. -/
def clauseAfter (first : List Item) : Branch :=
  let clause : List Item :=
    ["for", Rule.targets, "in", .commit, Rule.disjunction,
      .many (.choice [["if", Rule.disjunction]])]
  node .clause (first ++ clause)

/-! ## Functions -/

/-- A parameter and the comma or the end behind it. -/
def parameterThen (items : List Item) : List Branch := [
  through (items ++ [.fixed ","]),
  through (items ++ [.followedBy ":"])]

def parameterLists : List Branch := [
  through [Rule.positionalOnly, .many Rule.plainParameter, .many Rule.defaultParameter,
    .maybe Rule.restParameters],
  through [Rule.positionalOnlyWithDefaults, .many Rule.defaultParameter, .maybe Rule.restParameters],
  through [.several Rule.plainParameter, .many Rule.defaultParameter, .maybe Rule.restParameters],
  through [.several Rule.defaultParameter, .maybe Rule.restParameters],
  through [Rule.restParameters]]

/-- Parameters that are given by their places only. -/
def positionalParameters : Item :=
  .choice [[Rule.positionalOnly], [Rule.positionalOnlyWithDefaults]]

/-! ## Misuse -/

/-- What must not follow a value that is set to something. -/
def noFurtherSetting : Item :=
  .notFollowedBy (.choice [["="], [":="]])

def endOfValue : Item :=
  .followedBy (.choice [["\x7d"], [","]])

/-- The brackets of sets, and of lists of another kind. -/
def braces : Item :=
  .choice [["["], ["\x7b"]]

/-- Two values without a comma inside of brackets, unless the first is a statement of old. -/
def commaFault? (depth : Nat) : List Tree → Option Fault
  | value :: _ =>
      if value.formerStatement?.isSome || depth = 0 then none else some (.misuse .comma)
  | [] => none

/-- A statement of old without its parentheses. -/
def statementFault? : List Tree → Option Fault
  | value :: _ => value.formerStatement?.map .statement
  | [] => none

/-- The fault that the first of some trees is. -/
def describedFault? (f : String → Fault) : List Tree → Option Fault
  | t :: _ => some (f t.described)
  | [] => none

/-- Whether a value is given by its place. -/
def isPositional : Tree → Bool
  | .node .keyword _ => false
  | .node .unpacking _ => false
  | _ => true

/-- Arguments in front of a comprehension without parentheses. -/
def generatorFault? : List Tree → Option Fault
  | .node .arguments given :: _ =>
      if given.countP isPositional ≤ 1 then none else some (.misuse .bareGenerator)
  | _ => none

def isUnpacking : Tree → Bool
  | .node .unpacking _ => true
  | _ => false

/-- Arguments behind keyword arguments. -/
def orderFault? : List Tree → Option Fault
  | .node .arguments given :: _ =>
      some (.misuse (if given.any isUnpacking then .positionalAfterUnpacking
        else .positionalAfterKeyword))
  | _ => none

/-- What cannot take a value in a comprehension. -/
def targetFault? : List Tree → Option Fault
  | t :: _ => t.unfitTarget?.map (fun part => .target part.described)
  | [] => none

end Grammar

open Branch Grammar

def Rule.alternatives : Rule → List Branch
  | .whole => [through [Rule.expressions, .many Symbol.newline, Symbol.finish]]
  | .field => [through [Rule.starredExpressions]]
  | .expressions => tupleOf .expression
  | .expression => [
      through [.misuse .expressionMisuse],
      through [.misuse .statementMisuse],
      conditional,
      through [Rule.disjunction],
      through [Rule.function]]
  | .plainExpression => [conditional, through [Rule.disjunction], through [Rule.function]]
  | .yieldExpression => [
      node .yielded ["yield", "from", Rule.expression],
      node .yielded ["yield", .maybe Rule.starredExpressions]]
  | .starredExpressions => tupleOf .starredOrExpression
  | .starredOrExpression => [node .starred ["*", Rule.bitOr], through [Rule.expression]]
  | .memberList => [through [.listed Rule.member, .maybe ","]]
  | .member => [node .starred ["*", Rule.bitOr], through [Rule.namingOrExpression]]
  | .naming => [node .naming [Symbol.name, ":=", .commit, Rule.expression]]
  | .namingOrExpression => [
      through [Rule.naming],
      through [.misuse .namingMisuse],
      through [Rule.expression, .notFollowedBy ":="]]
  | .disjunction => [
      node .boolean [Rule.conjunction, .several (.choice [["or", Rule.conjunction]])],
      through [Rule.conjunction]]
  | .conjunction => [
      node .boolean [Rule.inversion, .several (.choice [["and", Rule.inversion]])],
      through [Rule.inversion]]
  | .inversion => [node (.unary "not") ["not", Rule.inversion], through [Rule.comparison]]
  | .comparison => [
      node .comparison [Rule.bitOr, .several Rule.comparisonEnd],
      through [Rule.bitOr]]
  | .comparisonEnd => comparisons
  | .bitOr => binary .bitOr .bitXor ["|"]
  | .bitXor => binary .bitXor .bitAnd ["^"]
  | .bitAnd => binary .bitAnd .shift ["&"]
  | .shift => binary .shift .sum ["<<", ">>"]
  | .sum => binary .sum .term ["+", "-"]
  | .term => binary .term .factor ["*", "/", "//", "%", "@"]
  | .factor => [
      node (.unary "+") ["+", Rule.factor],
      node (.unary "-") ["-", Rule.factor],
      node (.unary "~") ["~", Rule.factor],
      through [Rule.power]]
  | .power => [node (.binary "**") [Rule.awaited, "**", Rule.factor], through [Rule.awaited]]
  | .awaited => [node .awaited ["await", Rule.primary], through [Rule.primary]]
  | .primary => [
      node .access [Rule.primary, ".", Symbol.name],
      node .call [Rule.primary, Rule.generator],
      node .call [Rule.primary, "(", .maybe Rule.arguments, ")"],
      through [Rule.atom]]
  | .atom => [
      through [Symbol.name],
      through [.constant],
      through [.followedBy Symbol.text, Rule.texts],
      through [Symbol.number],
      through [.followedBy "(", .choice [[Rule.tuple], [Rule.parenthesized], [Rule.generator]]],
      through [.followedBy "\x7b",
        .choice [[Rule.dict], [Rule.set], [Rule.dictComprehension], [Rule.setComprehension]]],
      node .ellipsis ["..."]]
  | .texts => [node .text [.several Symbol.text]]
  | .tuple => [
      node .tuple ["(", .maybe (.choice [[Rule.member, ",", .maybe Rule.memberList]]), ")"]]
  | .parenthesized => [
      through ["(", .choice [[Rule.yieldExpression], [Rule.namingOrExpression]], ")"],
      through [.misuse .groupMisuse]]
  | .set => [node .set ["\x7b", Rule.memberList, "\x7d"]]
  | .dict => [
      node .dict ["\x7b", .maybe Rule.pairs, "\x7d"],
      node .dict ["\x7b", Rule.pairsMisuse, "\x7d"]]
  | .pairs => [through [.listed Rule.pairOrUnpacking, .maybe ","]]
  | .pairOrUnpacking => [node .unpacking ["**", Rule.bitOr], through [Rule.pair]]
  | .pair => [node .pair [Rule.expression, ":", Rule.expression]]
  | .clauses => [through [.several Rule.clause]]
  | .clause => [clauseAfter ["async"], clauseAfter [], through [.misuse .targetMisuse]]
  | .generator => [
      node .generator ["(", namedOrBare, Rule.clauses, ")"],
      through [.misuse .comprehensionMisuse]]
  | .setComprehension => [
      node .setComprehension ["\x7b", Rule.namingOrExpression, Rule.clauses, "\x7d"],
      through [.misuse .comprehensionMisuse]]
  | .dictComprehension => [
      node .dictComprehension ["\x7b", Rule.pair, Rule.clauses, "\x7d"],
      through [.misuse .dictComprehensionMisuse]]
  | .function => [node .function ["lambda", .maybe Rule.parameters, ":", Rule.expression]]
  | .parameters => [through [.misuse .parametersMisuse], through [Rule.parameterList]]
  | .parameterList => parameterLists
  | .positionalOnly => parameterThen [.several Rule.plainParameter, "/"]
  | .positionalOnlyWithDefaults =>
      parameterThen [.many Rule.plainParameter, .several Rule.defaultParameter, "/"]
  | .restParameters => [
      through [.misuse .restMisuse],
      through ["*", Rule.plainParameter, .many Rule.anyParameter, .maybe Rule.restKeywords],
      through ["*", ",", .several Rule.anyParameter, .maybe Rule.restKeywords],
      through [Rule.restKeywords]]
  | .restKeywords => [
      through [.misuse .restKeywordsMisuse],
      through ["**", Rule.plainParameter]]
  | .plainParameter => parameterThen [Rule.parameter]
  | .defaultParameter => parameterThen [Rule.parameter, Rule.defaultValue]
  | .anyParameter => parameterThen [Rule.parameter, .maybe Rule.defaultValue]
  | .parameter => [through [Symbol.name]]
  | .defaultValue => [through ["=", Rule.expression], through [.misuse .defaultMisuse]]
  | .arguments => [
      through [Rule.argumentList, .maybe ",", .followedBy ")"],
      through [.misuse .argumentsMisuse]]
  | .argumentList => [
      node .arguments [plainArguments, .maybe (.choice [[",", Rule.keywordArguments]])],
      node .arguments [Rule.keywordArguments]]
  | .keywordArguments => [
      through [.listed Rule.keywordOrStarred, ",", .listed Rule.keywordOrUnpacked],
      through [.listed Rule.keywordOrStarred],
      through [.listed Rule.keywordOrUnpacked]]
  | .starredArgument => [node .starred ["*", Rule.expression], wrong .starAlone ["*"]]
  | .keywordOrStarred => [
      through [.misuse .keywordMisuse],
      node .keyword [Symbol.name, "=", Rule.expression],
      through [Rule.starredArgument]]
  | .keywordOrUnpacked => [
      through [.misuse .keywordMisuse],
      node .keyword [Symbol.name, "=", Rule.expression],
      node .unpacking ["**", Rule.expression]]
  | .targets => [
      through [Rule.target, .notFollowedBy ","],
      node .tuple [Rule.target, .many (.choice [[",", Rule.target]]), .maybe ","]]
  | .target => [
      node .starred ["*", .choice [[.notFollowedBy "*", Rule.target]]],
      through [Rule.plainTarget]]
  | .plainTarget => [
      node .access [Rule.targetPrimary, ".", Symbol.name, .notFollowedBy Rule.targetGoesOn],
      through [Rule.targetAtom]]
  | .targetAtom => [
      through [Symbol.name],
      through ["(", Rule.plainTarget, ")"],
      node .tuple ["(", .maybe Rule.targetTuple, ")"]]
  | .targetTuple => [
      through [Rule.target, .several (.choice [[",", Rule.target]]), .maybe ","],
      through [Rule.target, ","]]
  | .targetPrimary => [
      node .access [Rule.targetPrimary, ".", Symbol.name, .followedBy Rule.targetGoesOn],
      node .call [Rule.targetPrimary, Rule.generator, .followedBy Rule.targetGoesOn],
      node .call [Rule.targetPrimary, "(", .maybe Rule.arguments, ")", .followedBy Rule.targetGoesOn],
      through [Rule.atom, .followedBy Rule.targetGoesOn]]
  | .targetGoesOn => [through ["("], through ["["], through ["."]]
  | .expressionMisuse => [
      faulty [.notFollowedBy (.choice [[Symbol.name, Symbol.text], [.softWord]]), Rule.disjunction,
        Rule.plainExpression] commaFault?,
      wrong .noElse [Rule.disjunction, "if", Rule.disjunction,
        .notFollowedBy (.choice [["else"], [":"]])]]
  | .statementMisuse => [
      faulty [Symbol.name, .notFollowedBy "(", Rule.starredExpressions] (fun _ => statementFault?)]
  | .namingMisuse => [
      faulty [Rule.expression, ":=", Rule.expression] (fun _ => describedFault? .naming),
      wrong .setting [Symbol.name, "=", Rule.bitOr, noFurtherSetting],
      faulty [.notFollowedBy (.choice [[Rule.tuple], [Rule.generator], [.constant]]), Rule.bitOr, "=",
        Rule.bitOr, noFurtherSetting] (fun _ => describedFault? .settingTo)]
  | .groupMisuse => [
      wrong .starredGroup ["(", Rule.starredArgument, ")"],
      wrong .unpackedGroup ["(", "**", Rule.expression, ")"]]
  | .comprehensionMisuse => [
      wrong .starredComprehension [.choice [["["], ["("], ["\x7b"]], Rule.starredArgument, Rule.clauses],
      wrong .bareTargets [braces, Rule.member, ",", Rule.memberList, Rule.clauses],
      wrong .bareTargets [braces, Rule.member, ",", Rule.clauses]]
  | .dictComprehensionMisuse => [
      wrong .unpackedComprehension ["\x7b", "**", Rule.bitOr, Rule.clauses, "\x7d"]]
  | .pairsMisuse => [
      through [.listed Rule.pairOrUnpacking, ",", Rule.pairMisuse],
      wrong .starredValue [Rule.expression, ":", "*", Rule.bitOr],
      wrong .noValue [Rule.expression, ":", endOfValue]]
  | .pairMisuse => [
      wrong .noColon [Rule.expression, .notFollowedBy ":"],
      wrong .starredValue [Rule.expression, ":", "*", Rule.bitOr],
      wrong .noValue [Rule.expression, ":", endOfValue]]
  | .argumentsMisuse => [
      wrong .unpackingAfterKeywords [
        .choice [[plainArguments, ",", Rule.keywordArguments], [Rule.keywordArguments]], ",",
        .listed (.choice [[Rule.starredArgument, .notFollowedBy "="]])],
      wrong .bareGenerator [Rule.expression, Rule.clauses, ",",
        .maybe (.choice [[Rule.argumentList], [Rule.expression, Rule.clauses]])],
      wrong .setting [Symbol.name, "=", Rule.expression, Rule.clauses],
      faulty [Rule.argumentList, Rule.clauses] (fun _ => generatorFault?),
      wrong .bareGenerator [Rule.argumentList, ",", Rule.expression, Rule.clauses],
      faulty [Rule.argumentList, ",", Rule.argumentList] (fun _ => orderFault?)]
  | .keywordMisuse => [
      faulty [.choice [[.constant]], "="] (fun _ => describedFault? .target),
      wrong .setting [Symbol.name, "=", Rule.expression, Rule.clauses],
      wrong .settingArgument [.notFollowedBy (.choice [[Symbol.name, "="]]), Rule.expression, "="]]
  | .targetMisuse => [
      faulty [.maybe "async", "for", Rule.starredExpressions] (fun _ => targetFault?)]
  | .parametersMisuse => [
      wrong .defaultOrder [.many Rule.plainParameter, Rule.defaultsMisuse, Rule.plainParameter],
      wrong .parenthesizedParameters [.many Rule.plainParameter, "(", .listed Rule.parameter,
        .maybe ",", ")"],
      wrong .nothingBeforeSlash ["/", ","],
      wrong .twoSlashes [positionalParameters, .many Rule.anyParameter, "/"],
      wrong .slashAfterStar [.maybe positionalParameters, .many Rule.anyParameter, "*",
        .choice [[","], [Rule.plainParameter]], .many Rule.anyParameter, "/"],
      wrong .noCommaBeforeStar [.several Rule.anyParameter, "/", "*"]]
  | .defaultsMisuse => [
      through [Rule.positionalOnlyWithDefaults],
      through [.several Rule.defaultParameter]]
  | .restMisuse => [
      wrong .nothingAfterStar ["*", .choice [[":"], [",", .choice [[":"], ["**"]]]]],
      wrong .restDefault ["*", Rule.parameter, "="],
      wrong .twoStars ["*", .choice [[Rule.plainParameter], [","]], .many Rule.anyParameter, "*",
        .choice [[Rule.plainParameter], [","]]]]
  | .restKeywordsMisuse => [
      wrong .restKeywordDefault ["**", Rule.parameter, "="],
      wrong .afterRestKeyword ["**", Rule.parameter, ",", Rule.parameter],
      wrong .afterRestKeyword ["**", Rule.parameter, ",", .choice [["*"], ["**"], ["/"]]]]
  | .defaultMisuse => [wrong .noDefault ["=", .followedBy (.choice [[")"], [","]])]]

end Expression
end Killswitch
