import Alembic.Resource.Value
/-! # Text resource documents -/

namespace Alembic.Resource

/-- The version of the text format written in every header. -/
def formatVersion : Nat := 3

/-- An external resource that properties refer to by id. -/
structure External where
  kind : String
  path : String
  id : Int

/-- One `name = value` line of the resource section. -/
structure Property where
  name : String
  value : Value

/-- A complete text resource. -/
structure Document where
  kind : String
  scriptClass : String
  loadSteps : Int
  externals : List External
  properties : List Property

namespace Document

/-- Appends a property. -/
def set (document : Document) (name : String) (value : Value) : Document :=
  { document with properties := document.properties ++ [⟨name, value⟩] }

def header (document : Document) : String :=
  "[gd_resource type=" ++ stringLiteral document.kind ++
    (if document.scriptClass.isEmpty then "" else " script_class=" ++ stringLiteral document.scriptClass) ++
    " load_steps=" ++ intText document.loadSteps ++ " format=" ++ toString formatVersion ++ "]\n\n"

def externalLine (external : External) : String :=
  "[ext_resource type=" ++ stringLiteral external.kind ++ " path=" ++ stringLiteral external.path ++
    " id=" ++ stringLiteral (intText external.id) ++ "]\n"

def propertyLine (property : Property) : String :=
  property.name ++ " = " ++ property.value.render ++ "\n"

/-- The text of the document. -/
def render (document : Document) : String :=
  document.header ++ String.join (document.externals.map externalLine) ++ "\n[resource]\n" ++
    String.join (document.properties.map propertyLine)

end Document

end Alembic.Resource
