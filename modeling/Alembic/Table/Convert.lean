import Alembic.Table.Value
import Alembic.Number.Literal
import Alembic.Text.Quoted
import Alembic.Text.Lowercase
/-! # Converting and unifying table values -/

namespace Alembic.Table


/-- Fuel for conversions: more than the nesting depth of any type in a table. -/
def depthBound : Nat := 1000

/-- Which of two types unification prefers: negative when the first is more general,
positive when the second is, zero when neither is. -/
def compareTypes : Ty → Ty → Int
  | .dynamic, .dynamic => 0
  | _, .dynamic => -1
  | .dynamic, _ => 1
  | .string, .string => 0
  | .string, .number | .string, .bool => -1
  | .number, .string | .bool, .string => 1
  | .list a, .list b => compareTypes a b
  | .map a, .map b => compareTypes a b
  | .list _, .tuple _ => -1
  | .tuple _, .list _ => 1
  | .map _, .object _ => -1
  | .object _, .map _ => 1
  | _, _ => 0

/-- The order in which unification tries the types as its result: a topological order of the
preference relation, ties kept in their given order. -/
def preferenceOrder (types : List Ty) : List Nat :=
  let count := types.length
  let table := types.toArray
  let pairs := (List.range count).flatMap fun i =>
    ((List.range count).filter (· > i)).map fun j => (i, j)
  let edges : Array (List Nat) := pairs.foldl (fun edges (i, j) =>
      let comparison := compareTypes (table.getD i .dynamic) (table.getD j .dynamic)
      if comparison < 0 then edges.modify i (· ++ [j])
      else if comparison > 0 then edges.modify j (· ++ [i])
      else edges)
    (Array.replicate count [])
  let inDegree : Array Nat := edges.foldl (fun degrees outs =>
      outs.foldl (fun degrees j => degrees.modify j (· + 1)) degrees)
    (Array.replicate count 0)
  let initial := (List.range count).filter fun i => inDegree.getD i 0 == 0
  let rec visit : Nat → List Nat → Array Nat → List Nat → List Nat
    | 0, _, _, done => done
    | _ + 1, [], _, done => done
    | fuel + 1, i :: queue, degrees, done =>
      let (degrees, queue) := (edges.getD i []).foldl (fun (degrees, queue) j =>
          let degrees := degrees.modify j (· - 1)
          if degrees.getD j 0 == 0 then (degrees, queue ++ [j]) else (degrees, queue))
        (degrees, queue)
      visit fuel queue degrees (done ++ [i])
  let visited := visit (count + 1) initial inDegree []
  visited ++ List.replicate (count - visited.length) 0

/-- How many of the types have a shape. -/
def countWhere (types : List Ty) (shape : Ty → Bool) : Nat := (types.filter shape).length

def isMapTy : Ty → Bool
  | .map _ => true
  | _ => false

def isListTy : Ty → Bool
  | .list _ => true
  | _ => false

def isObjectTy : Ty → Bool
  | .object _ => true
  | _ => false

def isTupleTy : Ty → Bool
  | .tuple _ => true
  | _ => false

def isDynamicTy : Ty → Bool
  | .dynamic => true
  | _ => false

def elementTy : Ty → Ty
  | .map element | .list element => element
  | _ => .dynamic

def attributeTys : Ty → List (String × Ty)
  | .object attributes => attributes
  | _ => []

def tupleTys : Ty → List Ty
  | .tuple elements => elements
  | _ => []

mutual

/-- Whether values of one type can be converted to another. -/
def canConvert : Nat → Ty → Ty → Bool
  | 0, _, _ => false
  | fuel + 1, source, target =>
    if source == target then true
    else
      match source, target with
      | _, .dynamic => true
      | .dynamic, _ => true
      | .number, .string | .bool, .string | .string, .number | .string, .bool => true
      | .object sources, .object targets =>
        targets.all fun entry =>
          match entryNamed sources entry.1 with
          | some sourceTy => canConvert fuel sourceTy entry.2
          | none => false
      | .tuple sources, .tuple targets =>
        sources.length == targets.length &&
          (sources.zip targets).all fun pair => canConvert fuel pair.1 pair.2
      | .list source, .list target => canConvert fuel source target
      | .map source, .map target => canConvert fuel source target
      | .tuple sources, .list element =>
        if sources.isEmpty then true
        else
          match (if element == .dynamic then unify fuel sources else some element) with
          | some chosen => sources.all fun source => canConvert fuel source chosen
          | none => false
      | .object attributes, .map element =>
        if attributes.isEmpty then true
        else
          match (if element == .dynamic then unify fuel (attributes.map Prod.snd) else some element) with
          | some chosen => attributes.all fun entry => canConvert fuel entry.2 chosen
          | none => false
      | .map element, .object targets => targets.all fun entry => canConvert fuel element entry.2
      | _, _ => false

/-- `target` when every type converts to it. -/
def allConvert : Nat → List Ty → Ty → Option Ty
  | 0, _, _ => none
  | fuel + 1, types, target =>
    if types.all fun ty => ty == target || canConvert fuel ty target then some target else none

/-- Unifies collections of one kind: their element types unify. -/
def unifyCollections : Nat → (Ty → Ty) → List Ty → Option Ty
  | 0, _, _ => none
  | fuel + 1, kind, types =>
    if types.any isDynamicTy then some .dynamic
    else
      match unify fuel (types.map elementTy) with
      | some element => allConvert fuel types (kind element)
      | none => none

/-- Unifies maps and objects as maps of the map elements' and the attributes' types. -/
def unifyAsMaps : Nat → List Ty → Option Ty
  | 0, _ => none
  | fuel + 1, types =>
    let elements := (types.filter isMapTy).map elementTy ++
      ((types.filter isObjectTy).flatMap fun ty => (attributeTys ty).map Prod.snd)
    match unify fuel elements with
    | some element => allConvert fuel types (.map element)
    | none => none

/-- Unifies objects: with the same attribute names, attribute by attribute; otherwise as a
map. -/
def unifyObjects : Nat → List Ty → Option Ty
  | 0, _ => none
  | fuel + 1, types =>
    if types.any isDynamicTy then some .dynamic
    else
      let first := attributeTys (types.headD .dynamic)
      let names := first.map Prod.fst
      let sameNames := types.all fun ty => (attributeTys ty).map Prod.fst == names
      if !sameNames then unifyAsMaps fuel types
      else
        let unified := names.mapM fun name =>
          (unify fuel (types.map fun ty => (entryNamed (attributeTys ty) name).getD .dynamic)).map
            fun ty => (name, ty)
        match unified with
        | none => none
        | some attributes =>
          match allConvert fuel types (.object attributes) with
          | some result => some result
          | none => unifyAsMaps fuel types

/-- Unifies tuples and lists as a list of the type all their elements unify to. -/
def unifyAsList : Nat → List Ty → Option Ty
  | 0, _ => none
  | fuel + 1, types =>
    let elements := types.flatMap fun ty =>
      match ty with
      | .tuple elements => elements
      | .list element => [element]
      | _ => []
    if elements.isEmpty then none
    else
      match unify fuel elements with
      | some element => allConvert fuel types (.list element)
      | none => none

/-- Unifies tuples of one length element by element, and tuples of different lengths as a
list. -/
def unifyTuples : Nat → List Ty → Option Ty
  | 0, _ => none
  | fuel + 1, types =>
    if types.any isDynamicTy then some .dynamic
    else
      let first := tupleTys (types.headD .dynamic)
      if !(types.all fun ty => (tupleTys ty).length == first.length) then unifyAsList fuel types
      else
        let unified := (List.range first.length).mapM fun i =>
          unify fuel (types.map fun ty => (tupleTys ty).getD i .dynamic)
        match unified with
        | none => none
        | some elements => allConvert fuel types (.tuple elements)

/-- The most general type that all the types convert to, if there is one. -/
def unify : Nat → List Ty → Option Ty
  | 0, _ => none
  | _ + 1, [] => none
  | fuel + 1, types =>
    let total := types.length
    let maps := countWhere types isMapTy
    let lists := countWhere types isListTy
    let objects := countWhere types isObjectTy
    let tuples := countWhere types isTupleTy
    let dynamics := countWhere types isDynamicTy
    let general : Option Ty :=
      let table := types.toArray
      (preferenceOrder types).findSome? fun index =>
        let wanted := table.getD index .dynamic
        if types.all fun ty => ty == wanted || canConvert fuel ty wanted then some wanted else none
    if maps > 0 ∧ maps + dynamics = total then unifyCollections fuel .map types
    else if maps > 0 ∧ maps + objects + dynamics = total then
      match unifyAsMaps fuel types with
      | some (.map element) => some (.map element)
      | _ => general
    else if lists > 0 ∧ lists + dynamics = total then unifyCollections fuel .list types
    else if lists > 0 ∧ lists + tuples + dynamics = total then unifyAsList fuel types
    else if objects > 0 ∧ objects + dynamics = total then unifyObjects fuel types
    else if tuples > 0 ∧ tuples + dynamics = total then unifyTuples fuel types
    else if objects > 0 ∧ tuples > 0 then none
    else general

end

/-- How a type is named when a value of it is required. -/
def constraintName : Ty → String
  | .dynamic => "any type"
  | .map element => "map of " ++ constraintName element
  | .list element => "list of " ++ constraintName element
  | ty => ty.friendlyName

/-- Why no value of one type converts to another. -/
def mismatchMessage (source target : Ty) : String :=
  match source, target with
  | .object sources, .object targets =>
    let missing := (targets.filter fun entry => (entryNamed sources entry.1).isNone).map Prod.fst
    match missing with
    | [] => "incorrect object attributes"
    | [one] => "attribute " ++ Text.quote one ++ " is required"
    | [one, two] => "attributes " ++ Text.quote one ++ " and " ++ Text.quote two ++ " are required"
    | _ =>
      "attributes " ++ String.join ((missing.dropLast).map fun name => Text.quote name ++ ", ") ++
        "and " ++ Text.quote (missing.getLast?.getD "") ++ " are required"
  | .tuple _, .list .dynamic => "all list elements must have the same type"
  | .object _, .map .dynamic => "attribute types must all match for conversion to map"
  | _, _ => constraintName target ++ " required"

/-- A string read as a bool. -/
def stringToBool (text : String) : Except String Bool :=
  match text with
  | "true" | "1" => .ok true
  | "false" | "0" => .ok false
  | _ =>
    match Text.lowerText text with
    | "true" => .error "a bool is required; to convert from string, use lowercase \"true\""
    | "false" => .error "a bool is required; to convert from string, use lowercase \"false\""
    | _ => .error "a bool is required"

/-- Whether all the types are one type. A collection built with `dynamic` elements holds values
of one type only, so a unification that found nothing more definite fails unless they agree. -/
def sameTypes (types : List Ty) : Bool :=
  match types with
  | [] => true
  | first :: rest => rest.all (· == first)

/-- Converts a value to a type. -/
def convert : Nat → Value → Ty → Except String Value
  | 0, value, _ => .ok value
  | fuel + 1, value, target =>
    let source := value.type
    if source == target || target == .dynamic then .ok value
    else if !canConvert depthBound source target then .error (mismatchMessage source target)
    else
      match value, target with
      | .null _, _ => .ok (.null target)
      | .unknown _, _ => .ok (.unknown target)
      | .string text, .number =>
        match Literal.parsePrecise text with
        | some number => .ok (.number number)
        | none => .error "a number is required"
      | .string text, .bool => (stringToBool text).map .bool
      | .number number, .string => .ok (.string number.text)
      | .bool flag, .string => .ok (.string (if flag then "true" else "false"))
      | .object attributes, .object targets =>
        (targets.mapM fun (entry : String × Ty) =>
          match entryNamed attributes entry.1 with
          | some member => (convert fuel member entry.2).map fun converted => (entry.1, converted)
          | none => .error ("attribute " ++ Text.quote entry.1 ++ " is required")).map .object
      | .tuple elements, .tuple targets =>
        ((elements.zip targets).mapM fun pair => convert fuel pair.1 pair.2).map .tuple
      | .tuple elements, .list element =>
        if elements.isEmpty then .ok (.list element [])
        else
          let chosen :=
            if element == .dynamic then (unify depthBound (elements.map Value.type)).getD .dynamic
            else element
          if chosen == .dynamic && !sameTypes (elements.map Value.type) then
            .error "all list elements must have the same type"
          else (elements.mapM fun member => convert fuel member chosen).map (.list chosen)
      | .list _ elements, .list element =>
        (elements.mapM fun member => convert fuel member element).map (.list element)
      | .object attributes, .map element =>
        if attributes.isEmpty then .ok (.map element [])
        else
          let chosen :=
            if element == .dynamic then
              (unify depthBound (attributes.map fun entry => entry.2.type)).getD .dynamic
            else element
          if chosen == .dynamic && !sameTypes (attributes.map fun entry => entry.2.type) then
            .error "attribute types must all match for conversion to map"
          else
            (attributes.mapM fun entry =>
              (convert fuel entry.2 chosen).map fun converted => (entry.1, converted)).map (.map chosen)
      | .map _ entries, .map element =>
        (entries.mapM fun entry =>
          (convert fuel entry.2 element).map fun converted => (entry.1, converted)).map (.map element)
      | .map _ entries, .object targets =>
        (targets.mapM fun (entry : String × Ty) =>
          match entryNamed entries entry.1 with
          | some member => (convert fuel member entry.2).map fun converted => (entry.1, converted)
          | none => .error ("map has no element for required attribute " ++ Text.quote entry.1)).map
          .object
      | _, _ => .error (mismatchMessage source target)

/-- Converts a value to a type, with fuel for any table. -/
def convertTo (value : Value) (target : Ty) : Except String Value :=
  convert depthBound value target

/-- The most general type of a list, with fuel for any table. -/
def unifyTypes (types : List Ty) : Option Ty := unify depthBound types

end Alembic.Table
