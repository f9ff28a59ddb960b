import Alembic.Table.Convert
import Alembic.Table.Native.Syntax
import Alembic.Text.Composed
/-! # Operations on table values -/

namespace Alembic.Table.Native

/-- Whether a type has `dynamic` anywhere in it. -/
def Ty.hasDynamic : Ty → Bool
  | .dynamic => true
  | .object attributes => attributes.attach.any fun ⟨entry, _⟩ => Ty.hasDynamic entry.2
  | .tuple elements => elements.attach.any fun ⟨element, _⟩ => Ty.hasDynamic element
  | .map element | .list element => Ty.hasDynamic element
  | _ => false
decreasing_by
  all_goals first
    | (simp_wf; have hmem := sizeOf_snd_lt_of_mem ‹_ ∈ _›; omega)
    | (simp_wf; have hmem := List.sizeOf_lt_of_mem ‹_ ∈ _›; omega)
    | decreasing_tactic

/-- Whether values of the first type fit where the second is wanted: `dynamic` takes anything,
and structures fit member by member. -/
def Ty.conformsTo : Nat → Ty → Ty → Bool
  | 0, _, _ => false
  | fuel + 1, given, wanted =>
    if wanted == .dynamic || given == wanted then true
    else
      match given, wanted with
      | .object givens, .object wanteds =>
        givens.map Prod.fst == wanteds.map Prod.fst &&
          (givens.zip wanteds).all fun pair => Ty.conformsTo fuel pair.1.2 pair.2.2
      | .tuple givens, .tuple wanteds =>
        givens.length == wanteds.length &&
          (givens.zip wanteds).all fun pair => Ty.conformsTo fuel pair.1 pair.2
      | .list given, .list wanted | .map given, .map wanted => Ty.conformsTo fuel given wanted
      | _, _ => false

/-- Whether two types are the same. -/
def sameTy (first second : Ty) : Bool := first == second

/-- The equality of two values: a bool, or an unknown bool. -/
def equalValues : Nat → Value → Value → Value
  | 0, _, _ => .unknown .bool
  | fuel + 1, first, second =>
    match first.isKnown, second.isKnown with
    | false, false => .unknown .bool
    | true, false =>
      if first.isNull || Ty.hasDynamic second.type then .unknown .bool
      else if !sameTy first.type second.type then .bool false
      else .unknown .bool
    | false, true =>
      if second.isNull || Ty.hasDynamic first.type then .unknown .bool
      else if !sameTy first.type second.type then .bool false
      else .unknown .bool
    | true, true =>
      if first.isNull && second.isNull then .bool true
      else if first.isNull || second.isNull then .bool false
      else if Ty.hasDynamic first.type || Ty.hasDynamic second.type then
        if !Ty.conformsTo depthBound first.type second.type &&
            !Ty.conformsTo depthBound second.type first.type then .bool false
        else .unknown .bool
      else if !sameTy first.type second.type then .bool false
      else
        let all (pairs : List (Value × Value)) : Value :=
          pairs.foldl (fun (acc : Value) pair =>
            match acc with
            | .bool true =>
              match equalValues fuel pair.1 pair.2 with
              | .bool result => .bool result
              | _ => .unknown .bool
            | other => other) (.bool true)
        match first, second with
        | .number x, .number y => .bool (x.sameValue y)
        | .bool x, .bool y => .bool (x == y)
        | .string x, .string y => .bool (x == y)
        | .object xs, .object ys => all ((xs.zip ys).map fun pair => (pair.1.2, pair.2.2))
        | .tuple xs, .tuple ys => all (xs.zip ys)
        | .list _ xs, .list _ ys =>
          if xs.length != ys.length then .bool false else all (xs.zip ys)
        | .map _ xs, .map _ ys =>
          if xs.map Prod.fst != ys.map Prod.fst then .bool false
          else all ((xs.zip ys).map fun pair => (pair.1.2, pair.2.2))
        | _, _ => .bool false

/-- Why an arithmetic operation has no number as its result. -/
def arithmeticMessage : BinaryOp → String
  | .add => "can't compute sum of opposing infinities"
  | .subtract => "can't subtract infinity from itself"
  | .multiply => "can't multiply zero by infinity"
  | .divide => "can't divide zero by zero or infinity by infinity"
  | _ => "can't use modulo with zero and infinity"

/-- An arithmetic operation on two numbers. -/
def arithmetic (op : BinaryOp) (x y : Precise) : Except String Precise :=
  let result := match op with
    | .add => x.add y
    | .subtract => x.sub y
    | .multiply => x.mul y
    | .divide => x.div y
    | _ => x.mod y
  match result with
  | .ok value => .ok value
  | .error _ => .error (arithmeticMessage op)

/-- The type an operator's operands are converted to. -/
def operandTy : BinaryOp → Ty
  | .or | .and => .bool
  | .equal | .notEqual => .dynamic
  | _ => .number

/-- The type of an operator's result. -/
def resultTy : BinaryOp → Ty
  | .add | .subtract | .multiply | .divide | .modulo => .number
  | _ => .bool

/-- Applies an operator to operands of its operand type; an error is a message. -/
def applyBinary (op : BinaryOp) (x y : Value) : Except String Value :=
  match op with
  | .equal => .ok (equalValues depthBound x y)
  | .notEqual =>
    match equalValues depthBound x y with
    | .bool result => .ok (.bool !result)
    | other => .ok other
  | _ =>
    if x.isNull || y.isNull then .error "argument must not be null"
    else
      match op with
      | .and =>
        match x, y with
        | .bool a, .bool b => .ok (.bool (a && b))
        | .bool false, _ | _, .bool false => .ok (.bool false)
        | _, _ => .ok (.unknown .bool)
      | .or =>
        match x, y with
        | .bool a, .bool b => .ok (.bool (a || b))
        | .bool true, _ | _, .bool true => .ok (.bool true)
        | _, _ => .ok (.unknown .bool)
      | .greater | .greaterEq | .less | .lessEq =>
        match x, y with
        | .number a, .number b =>
          let order := a.compareTo b
          .ok (.bool (match op with
            | .greater => order == .gt
            | .greaterEq => order != .lt
            | .less => order == .lt
            | _ => order != .gt))
        | _, _ => .ok (.unknown .bool)
      | _ =>
        match x, y with
        | .number a, .number b => (arithmetic op a b).map Value.number
        | _, _ => .ok (.unknown .number)

def invalidIndex (detail : String) (subject : Range) : Diagnostic :=
  ⟨"Invalid index", detail, subject⟩

def noElement : String := "The given key does not identify an element in this collection value"

/-- The element of a sequence at a whole-number index, or why there is none. -/
def sequenceElement (elements : List Value) (key : Precise) (elementTy : Option Ty) (range : Range) :
    Value × List Diagnostic :=
  match key.toInt64? with
  | some index =>
    if 0 ≤ index ∧ index < elements.length then (elements.getD index.toNat default, [])
    else
      let detail :=
        if index < 0 then noElement ++ ": a negative number is not a valid index for a sequence."
        else if elements.isEmpty ∧ index = 0 then noElement ++ ": the collection has no elements."
        else noElement ++ "."
      (.unknown .dynamic, [invalidIndex detail range])
  | none =>
    let detail :=
      if !key.isWhole then
        noElement ++ ": indexing a sequence requires a whole number, but the given index has a fractional part."
      else if key.isNegative then noElement ++ ": a negative number is not a valid index for a sequence."
      else noElement ++ "."
    let _ := elementTy
    (.unknown .dynamic, [invalidIndex detail range])

/-- Indexes a value with a key. -/
def indexValue (collection key : Value) (range : Range) : Value × List Diagnostic :=
  if collection.isNull then
    (.unknown .dynamic, [⟨"Attempt to index null value", "This value is null, so it does not have any indices.", range⟩])
  else if key.isNull then
    (.unknown .dynamic, [invalidIndex "Can't use a null value as an indexing key." range])
  else if key.type == .dynamic || collection.type == .dynamic then (.unknown .dynamic, [])
  else
    match collection.type with
    | .list _ | .tuple _ | .map _ =>
      let wanted : Ty := match collection.type with
        | .map _ => .string
        | _ => .number
      match convertTo key wanted with
      | .error reason => (.unknown .dynamic, [invalidIndex (noElement ++ ": " ++ reason ++ ".") range])
      | .ok key =>
        if !collection.isKnown || !key.isKnown then
          match collection.type with
          | .tuple _ => (.unknown .dynamic, [])
          | .list element | .map element => (.unknown element, [])
          | _ => (.unknown .dynamic, [])
        else
          match collection, key with
          | .tuple elements, .number index => sequenceElement elements index none range
          | .list element elements, .number index => sequenceElement elements index (some element) range
          | .map _ entries, .string name =>
            match entryNamed entries name with
            | some value => (value, [])
            | none => (.unknown .dynamic, [invalidIndex (noElement ++ ".") range])
          | _, _ => (.unknown .dynamic, [invalidIndex (noElement ++ ".") range])
    | .object attributes =>
      match convertTo key .string with
      | .error reason => (.unknown .dynamic, [invalidIndex (noElement ++ ": " ++ reason ++ ".") range])
      | .ok key =>
        if !collection.isKnown || !key.isKnown then (.unknown .dynamic, [])
        else
          match key with
          | .string name =>
            match entryNamed attributes name, collection with
            | some _, .object members =>
              ((entryNamed members name).getD (.unknown .dynamic), [])
            | _, _ => (.unknown .dynamic, [invalidIndex (noElement ++ ".") range])
          | _ => (.unknown .dynamic, [invalidIndex (noElement ++ ".") range])
    | _ => (.unknown .dynamic, [invalidIndex "This value does not have any indices." range])

def unsupportedAttribute (detail : String) (subject : Range) : Diagnostic :=
  ⟨"Unsupported attribute", detail, subject⟩

/-- The attribute of a value with a name. The name is looked up in normalisation form C, as
attribute names and map keys are kept; messages quote it as written. -/
def attributeValue (value : Value) (name : String) (range : Range) : Value × List Diagnostic :=
  let key := Text.toNFC name
  if value.isNull then
    (.unknown .dynamic, [⟨"Attempt to get attribute from null value",
      "This value is null, so it does not have any attributes.", range⟩])
  else
    match value.type with
    | .object attributes =>
      match entryNamed attributes key with
      | none =>
        (.unknown .dynamic, [unsupportedAttribute
          ("This object does not have an attribute named " ++ Text.quote name ++ ".") range])
      | some ty =>
        match value with
        | .object members => ((entryNamed members key).getD (.unknown ty), [])
        | _ => (.unknown ty, [])
    | .map element =>
      match value with
      | .map _ entries =>
        match entryNamed entries key with
        | some member => (member, [])
        | none =>
          (.unknown .dynamic, [⟨"Missing map element",
            "This map does not have an element with the key " ++ Text.quote name ++ ".", range⟩])
      | _ => (.unknown element, [])
    | .dynamic => (.unknown .dynamic, [])
    | .list (.object attributes) =>
      if (entryNamed attributes key).isSome then
        (.unknown .dynamic, [unsupportedAttribute
          ("Can't access attributes on a list of objects. Did you mean to access attribute " ++
            Text.quote name ++ " for a specific element of the list, or across all elements of the list?")
          range])
      else
        (.unknown .dynamic, [unsupportedAttribute
          "Can't access attributes on a list of objects. Did you mean to access an attribute for a specific element of the list, or across all elements of the list?"
          range])
    | .string | .number | .bool =>
      (.unknown .dynamic, [unsupportedAttribute
        ("Can't access attributes on a primitive-typed value (" ++ value.type.friendlyName ++ ").") range])
    | _ => (.unknown .dynamic, [unsupportedAttribute "This value does not have any attributes." range])

/-- Applies traversal steps to a value, stopping at the first that fails. -/
def traverse (value : Value) : List Step → Value × List Diagnostic
  | [] => (value, [])
  | step :: rest =>
    let (next, problems) := match step with
      | .attr name range => attributeValue value name range
      | .index key range => indexValue value key range
    if !problems.isEmpty then (.unknown .dynamic, problems) else traverse next rest

/-- The key and value of each element of a collection, in order: positions for sequences,
names for objects and maps. -/
def elementPairs : Value → Option (List (Value × Value))
  | .tuple elements | .list _ elements =>
    some (elements.zipIdx.map fun (element, index) => (.number (Precise.ofNat index), element))
  | .object entries | .map _ entries => some (entries.map fun (name, value) => (.string name, value))
  | _ => none

end Alembic.Table.Native
