import Alembic.Table.Native.Operations
import Alembic.Table.Json.Literals
/-! # Evaluating native table expressions -/

namespace Alembic.Table.Native

/-- What names mean where an expression is evaluated: the variables, if there are any, the
innermost first, and the element a splat is at. -/
structure Scope where
  locals : Option (List (String × Value)) := none
  item : Option Value := none

/-- The scope with more variables, which hide those of the same names. -/
def Scope.bind (scope : Scope) (bindings : List (String × Value)) : Scope :=
  { scope with locals := some (bindings ++ scope.locals.getD []) }

/-- The name a bare key expression stands for: a variable name alone, or a keyword. -/
def keywordOf : Expr → Option String
  | .scope root _ [] _ => some root
  | .literal (.null _) _ => some "null"
  | .literal (.bool true) _ => some "true"
  | .literal (.bool false) _ => some "false"
  | .parens inner _ => keywordOf inner
  | _ => none

def isNullDynamic : Value → Bool
  | .null .dynamic => true
  | _ => false

/-- Why two results of a conditional have no common type. -/
def describeMismatch : Nat → Ty → Ty → String
  | 0, _, _ => "At least one deeply-nested attribute or element is not compatible across both the 'true' and the 'false' value"
  | fuel + 1, onTrue, onFalse =>
    let fallback :=
      if onTrue.friendlyName == onFalse.friendlyName then
        "At least one deeply-nested attribute or element is not compatible across both the 'true' and the 'false' value"
      else
        "The 'true' value is " ++ onTrue.friendlyName ++ ", but the 'false' value is " ++ onFalse.friendlyName
    match onTrue, onFalse with
    | .object trues, .object falses =>
      let fromTrue := trues.findSome? fun (name, ty) =>
        match entryNamed falses name with
        | none => some ("The 'true' value includes object attribute " ++ Text.quote name ++
            ", which is absent in the 'false' value")
        | some other =>
          if ty == other then none
          else some ("Type mismatch for object attribute " ++ Text.quote name ++ ": " ++
            describeMismatch fuel ty other)
      match fromTrue with
      | some text => text
      | none =>
        match falses.find? fun (name, _) => (entryNamed trues name).isNone with
        | some (name, _) => "The 'false' value includes object attribute " ++ Text.quote name ++
            ", which is absent in the 'true' value"
        | none => fallback
    | .tuple trues, .tuple falses =>
      if trues.length != falses.length then
        "The 'true' tuple has length " ++ toString trues.length ++ ", but the 'false' tuple has length " ++
          toString falses.length
      else
        match ((trues.zip falses).zipIdx.find? fun ((a, b), _) => !(a == b)) with
        | some ((a, b), index) =>
          "Mismatched tuple element types at index " ++ toString index ++ ": " ++ describeMismatch fuel a b
        | none => fallback
    | .list a, .list b | .map a, .map b =>
      let structural := match a, b with
        | .object _, .object _ | .tuple _, .tuple _ => true
        | _, _ => false
      if structural then
        "Mismatched " ++ (match onTrue with | .list _ => "list" | _ => "map") ++ " element types: " ++
          describeMismatch fuel a b
      else fallback
    | _, _ => fallback

def diagnosticOf (summary detail : String) (subject : Range) : Diagnostic := ⟨summary, detail, subject⟩

/-- The text of the results of a template `for` directive, joined. -/
def joinResults (range : Range) : List Value → String → List Diagnostic → Value × List Diagnostic
  | [], text, problems => (.string (Text.toNFC text), problems)
  | value :: rest, text, problems =>
    if value.isNull then
      joinResults range rest text (problems ++ [diagnosticOf "Invalid template interpolation value"
        "An iteration result is null. Cannot include a null value in a string template." range])
    else if value.type == .dynamic then (.unknown .string, problems)
    else
      match convertTo value .string with
      | .error reason =>
        joinResults range rest text (problems ++ [diagnosticOf "Invalid template interpolation value"
          ("Cannot include one of the interpolation results into the string template: " ++ reason ++ ".")
          range])
      | .ok (.string piece) => joinResults range rest (text ++ piece) problems
      | .ok _ => (.unknown .string, problems)

/-- The state of a `for` expression building an object: the entries, the groups, whether every
key was known, and the problems. -/
structure ObjectBuild where
  entries : List (String × Value) := []
  groups : List (String × List Value) := []
  known : Bool := true
  problems : List Diagnostic := []

/-- The state of a `for` expression building a tuple. -/
structure TupleBuild where
  elements : List Value := []
  known : Bool := true
  problems : List Diagnostic := []

def invalidForCondition (detail : String) (subject : Range) : Diagnostic :=
  diagnosticOf "Invalid 'for' condition" detail subject

def nullCondition : String := "The value of the 'if' clause must not be null."

/-- The value of an expression and the problems met. -/
def evaluate : Nat → Scope → Expr → Value × List Diagnostic
  | 0, _, _ => (.unknown .dynamic, [])
  | fuel + 1, scope, expr =>
    match expr with
    | .literal value _ => (value, [])
    | .scope root rootRange steps _ =>
      match scope.locals with
      | none =>
        (.unknown .dynamic, [diagnosticOf "Variables not allowed" "Variables may not be used here." rootRange])
      | some bindings =>
        match entryNamed bindings root with
        | some value => traverse value steps
        | none =>
          let suggestion := match (bindings.map Prod.fst).find? fun name =>
              Json.editDistance root.toList name.toList < 3 with
            | some name => " Did you mean " ++ Text.quote name ++ "?"
            | none => ""
          (.unknown .dynamic, [diagnosticOf "Unknown variable"
            ("There is no variable named " ++ Text.quote root ++ "." ++ suggestion) rootRange])
    | .relative source steps _ =>
      let (value, problems) := evaluate fuel scope source
      let (result, more) := traverse value steps
      (result, problems ++ more)
    | .call _ _ range =>
      (.unknown .dynamic, [diagnosticOf "Function calls not allowed" "Functions may not be called here." range])
    | .conditional condition onTrue onFalse _ =>
      let (whenTrue, trueProblems) := evaluate fuel scope onTrue
      let (whenFalse, falseProblems) := evaluate fuel scope onFalse
      let plan : Option (Ty × Bool × Bool) :=
        if isNullDynamic whenTrue then some (whenFalse.type, true, false)
        else if isNullDynamic whenFalse then some (whenTrue.type, false, true)
        else if whenTrue.type == .dynamic || whenFalse.type == .dynamic then some (.dynamic, false, false)
        else
          match unifyTypes [whenTrue.type, whenFalse.type] with
          | some ty => some (ty, !(whenTrue.type == ty), !(whenFalse.type == ty))
          | none => none
      match plan with
      | none =>
        (.unknown .dynamic, [diagnosticOf "Inconsistent conditional result types"
          ("The true and false result expressions must have consistent types. " ++
            describeMismatch depthBound whenTrue.type whenFalse.type ++ ".")
          (Range.between onTrue.range onFalse.range)])
      | some (resultType, convertTrue, convertFalse) =>
        let (chosen, problems) := evaluate fuel scope condition
        if chosen.isNull then
          (.unknown resultType, problems ++ [diagnosticOf "Null condition"
            "The condition value is null. Conditions must either be true or false." condition.range])
        else if !chosen.isKnown then
          (if whenTrue.isNull && whenFalse.isNull then .null resultType else .unknown resultType, problems)
        else
          match convertTo chosen .bool with
          | .ok (.bool branch) =>
            let (value, branchProblems, convert, name, branchRange) :=
              if branch then (whenTrue, trueProblems, convertTrue, "true", onTrue.range)
              else (whenFalse, falseProblems, convertFalse, "false", onFalse.range)
            if convert then
              match convertTo value resultType with
              | .ok converted => (converted, problems ++ branchProblems)
              | .error reason =>
                (.unknown resultType, problems ++ branchProblems ++ [diagnosticOf
                  "Inconsistent conditional result types"
                  ("The " ++ name ++ " result value has the wrong type: " ++ reason ++ ".") branchRange])
            else (value, problems ++ branchProblems)
          | .ok _ => (.unknown resultType, problems)
          | .error _ =>
            (.unknown resultType, problems ++ [diagnosticOf "Incorrect condition type"
              "The condition expression must be of type bool." condition.range])
    | .binary op lhs rhs range =>
      let (left, leftProblems) := evaluate fuel scope lhs
      let (right, rightProblems) := evaluate fuel scope rhs
      let wanted := operandTy op
      let convertSide (value : Value) (side : String) (subject : Range) : Value × List Diagnostic :=
        match convertTo value wanted with
        | .ok converted => (converted, [])
        | .error reason =>
          (.unknown wanted, [diagnosticOf "Invalid operand"
            ("Unsuitable value for " ++ side ++ " operand: " ++ reason ++ ".") subject])
      let (left, leftConversion) := convertSide left "left" lhs.range
      let (right, rightConversion) := convertSide right "right" rhs.range
      let problems := leftProblems ++ rightProblems ++ leftConversion ++ rightConversion
      if !problems.isEmpty then (.unknown (resultTy op), problems)
      else
        match applyBinary op left right with
        | .ok value => (value, [])
        | .error reason =>
          (.unknown (resultTy op), [diagnosticOf "Operation failed"
            ("Error during operation: " ++ reason ++ ".") range])
    | .unary op operand range =>
      let (value, problems) := evaluate fuel scope operand
      let wanted : Ty := if op == .negate then .number else .bool
      match convertTo value wanted with
      | .error reason =>
        (.unknown wanted, problems ++ [diagnosticOf "Invalid operand"
          ("Unsuitable value for unary operand: " ++ reason ++ ".") operand.range])
      | .ok converted =>
        if !problems.isEmpty then (.unknown wanted, problems)
        else if converted.isNull then
          (.unknown wanted, [diagnosticOf "Operation failed"
            "Error during operation: argument must not be null." range])
        else
          match op, converted with
          | .negate, .number number => (.number number.neg, [])
          | .not, .bool flag => (.bool !flag, [])
          | _, _ => (.unknown wanted, [])
    | .parens inner _ => evaluate fuel scope inner
    | .wrap inner _ => evaluate fuel scope inner
    | .template parts _ =>
      let (text, known, problems) := parts.foldl (fun (acc : String × Bool × List Diagnostic) part =>
          let (text, known, problems) := acc
          let (value, partProblems) := evaluate fuel scope part
          let problems := problems ++ partProblems
          if value.isNull then
            (text, known, problems ++ [diagnosticOf "Invalid template interpolation value"
              "The expression result is null. Cannot include a null value in a string template."
              part.range])
          else if !value.isKnown then (text, false, problems)
          else
            match convertTo value .string with
            | .error reason =>
              (text, known, problems ++ [diagnosticOf "Invalid template interpolation value"
                ("Cannot include the given value in a string template: " ++ reason ++ ".") part.range])
            | .ok (.string piece) =>
              (if known && problems.isEmpty then text ++ piece else text, known, problems)
            | .ok _ => (text, false, problems))
        ("", true, [])
      (if known then .string (Text.toNFC text) else .unknown .string, problems)
    | .join inner =>
      let (results, problems) := evaluate fuel scope inner
      if results.type == .dynamic || !results.isKnown then (.unknown .string, problems)
      else
        match results with
        | .tuple elements => joinResults inner.range elements "" problems
        | _ => (.unknown .string, problems)
    | .tuple items _ =>
      let results := items.map (evaluate fuel scope)
      (.tuple (results.map Prod.fst), results.flatMap Prod.snd)
    | .object items _ =>
      let (entries, known, problems) := items.foldl
        (fun (acc : List (String × Value) × Bool × List Diagnostic) (item : Expr × Expr) =>
          let (entries, known, problems) := acc
          let (key, keyProblems) := evaluate fuel scope item.1
          let (value, valueProblems) := evaluate fuel scope item.2
          let problems := problems ++ keyProblems ++ valueProblems
          if !keyProblems.isEmpty then (entries, false, problems)
          else if key.isNull then
            (entries, false, problems ++ [diagnosticOf "Null value as key" "Can't use a null value as a key."
              item.2.range])
          else
            match convertTo key .string with
            | .error reason =>
              (entries, false, problems ++ [diagnosticOf "Incorrect key type"
                ("Can't use this value as a key: " ++ reason ++ ".") item.1.range])
            | .ok (.string name) => (setEntry entries name value, known, problems)
            | .ok _ => (entries, false, problems))
        ([], true, [])
      (if known then .object entries else .unknown .dynamic, problems)
    | .key wrapped forceNonLiteral =>
      if forceNonLiteral then evaluate fuel scope wrapped
      else
        match wrapped with
        | .scope _ _ (_ :: _) _ =>
          (.unknown .dynamic, [diagnosticOf "Ambiguous attribute key"
            "If this expression is intended to be a reference, wrap it in parentheses. If it's instead intended as a literal name containing periods, wrap it in quotes to create a string literal."
            wrapped.range])
        | _ =>
          match keywordOf wrapped with
          | some name => (.string (Text.toNFC name), [])
          | none => evaluate fuel scope wrapped
    | .loop keyVar valueVar collection keyExpr valueExpr condition group range =>
      let (source, sourceProblems) := evaluate fuel scope collection
      let bindings (key value : Value) : List (String × Value) :=
        (valueVar, value) :: (match keyVar with
          | some name => [(name, key)]
          | none => [])
      if source.isNull then
        (.unknown .dynamic, sourceProblems ++ [diagnosticOf "Iteration over null value"
          "A null value cannot be used as the collection in a 'for' expression." collection.range])
      else if source.type == .dynamic then (.unknown .dynamic, sourceProblems)
      else
        let iterable := match source.type with
          | .tuple _ | .list _ | .object _ | .map _ => true
          | _ => false
        if !iterable then
          (.unknown .dynamic, sourceProblems ++ [diagnosticOf "Iteration over non-iterable value"
            ("A value of type " ++ source.type.friendlyName ++
              " cannot be used as the collection in a 'for' expression.") collection.range])
        else
          let (checkProblems, abandon) : List Diagnostic × Bool :=
            match condition with
            | none => ([], false)
            | some test =>
              let (result, testProblems) :=
                evaluate fuel (scope.bind (bindings (.unknown .dynamic) (.unknown .dynamic))) test
              if result.isNull then
                (testProblems ++ [diagnosticOf "Condition is null" nullCondition test.range], true)
              else
                match convertTo result .bool with
                | .error reason =>
                  (testProblems ++ [invalidForCondition
                    ("The 'if' clause value is invalid: " ++ reason ++ ".") test.range], true)
                | .ok _ => (testProblems, !testProblems.isEmpty)
          let problems := sourceProblems ++ checkProblems
          if abandon || !source.isKnown then (.unknown .dynamic, problems)
          else
            let pairs := (elementPairs source).getD []
            -- Whether an element is kept: `some true` to keep, `some false` to skip, `none` when
            -- the condition failed; with the condition's problems.
            let keeps (inner : Scope) (known : Bool) : Option Bool × List Diagnostic :=
              match condition with
              | none => (some true, [])
              | some test =>
                let (result, testProblems) := evaluate fuel inner test
                if result.isNull then
                  (none, testProblems ++
                    (if known then [invalidForCondition nullCondition test.range] else []))
                else
                  match convertTo result .bool with
                  | .error reason =>
                    (none, testProblems ++ (if known then [invalidForCondition
                      ("The 'if' clause value is invalid: " ++ reason ++ ".") test.range] else []))
                  | .ok (.bool keep) => (some keep, testProblems)
                  | .ok _ => (none, testProblems)
            match keyExpr with
            | some keyOf =>
              let built := pairs.foldl (fun (state : ObjectBuild) (pair : Value × Value) =>
                  let inner := scope.bind (bindings pair.1 pair.2)
                  let (keep, testProblems) := keeps inner state.known
                  let state := { state with problems := state.problems ++ testProblems }
                  match keep with
                  | none => { state with known := false }
                  | some false => state
                  | some true =>
                    let (rawKey, keyProblems) := evaluate fuel inner keyOf
                    let state := { state with problems := state.problems ++ keyProblems }
                    if rawKey.isNull then
                      { state with known := false, problems := state.problems ++
                        (if state.known then [diagnosticOf "Invalid object key"
                          "Key expression in 'for' expression must not produce a null value." keyOf.range]
                        else []) }
                    else if !rawKey.isKnown then { state with known := false }
                    else
                      match convertTo rawKey .string with
                      | .error reason =>
                        { state with known := false, problems := state.problems ++
                          (if state.known then [diagnosticOf "Invalid object key"
                            ("The key expression produced an invalid result: " ++ reason ++ ".")
                            keyOf.range] else []) }
                      | .ok (.string name) =>
                        let (value, valueProblems) := evaluate fuel inner valueExpr
                        let state := { state with problems := state.problems ++ valueProblems }
                        if group then
                          let members := (entryNamed state.groups name).getD []
                          { state with groups := setEntry state.groups name (members ++ [value]) }
                        else if (entryNamed state.entries name).isSome then
                          let duplicate := diagnosticOf "Duplicate object key"
                            ("Two different items produced the key " ++ Text.quote name ++
                              " in this 'for' expression. If duplicates are expected, use the ellipsis (...) after the value expression to enable grouping by key.")
                            keyOf.range
                          { state with problems := state.problems ++ [duplicate] }
                        else { state with entries := setEntry state.entries name value }
                      | .ok _ => { state with known := false })
                {}
              let problems := problems ++ built.problems
              if !built.known then (.unknown .dynamic, problems)
              else if group then
                (.object (built.groups.map fun (name, values) => (name, .tuple values)), problems)
              else (.object built.entries, problems)
            | none =>
              let built := pairs.foldl (fun (state : TupleBuild) (pair : Value × Value) =>
                  let inner := scope.bind (bindings pair.1 pair.2)
                  let (keep, testProblems) := keeps inner state.known
                  let state := { state with problems := state.problems ++ testProblems }
                  match keep with
                  | none => { state with known := false }
                  | some false => state
                  | some true =>
                    let (value, valueProblems) := evaluate fuel inner valueExpr
                    { state with elements := state.elements ++ [value],
                                 problems := state.problems ++ valueProblems })
                {}
              let _ := range
              let problems := problems ++ built.problems
              if !built.known then (.unknown .dynamic, problems)
              else (.tuple built.elements, problems)
    | .index collection key bracketRange _ =>
      let (container, containerProblems) := evaluate fuel scope collection
      let (keyValue, keyProblems) := evaluate fuel scope key
      let (value, indexProblems) := indexValue container keyValue bracketRange
      (value, containerProblems ++ keyProblems ++ indexProblems)
    | .splat source each _ =>
      let (value, problems) := evaluate fuel scope source
      if !problems.isEmpty then (.unknown .dynamic, problems)
      else
        let sequence := match value.type with
          | .tuple _ | .list _ => true
          | _ => false
        if value.isNull then
          if !sequence then (.tuple [], [])
          else
            (.unknown .dynamic, [diagnosticOf "Splat of null value"
              "Splat expressions (with the * symbol) cannot be applied to null sequences." source.range])
        else
          let value := if sequence then value else .tuple [value]
          if !value.isKnown then (.unknown .dynamic, [])
          else
            let results := value.elements.map fun element => evaluate fuel { scope with item := some element } each
            let problems := results.flatMap Prod.snd
            if results.any (fun result => !result.2.isEmpty) then (.unknown .dynamic, problems)
            else
              match value with
              | .list _ _ =>
                let elementType := ((results.head?).map fun result => result.1.type).getD .dynamic
                (.list elementType (results.map Prod.fst), problems)
              | _ => (.tuple (results.map Prod.fst), problems)
    | .item _ => (scope.item.getD (.unknown .dynamic), [])
    | .invalid _ => (.unknown .dynamic, [])

/-- The value of an expression read from a source of `sourceLength` bytes, evaluated without
variables. -/
def evaluateExpr (sourceLength : Nat) (expr : Expr) : Value × List Diagnostic :=
  evaluate (2 * sourceLength + 16) {} expr

end Alembic.Table.Native
