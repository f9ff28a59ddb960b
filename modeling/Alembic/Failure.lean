import Alembic.Text.Quoted
/-! # Failures -/

namespace Alembic

/-- Why the operating system refused a file operation. -/
inductive Errno where
  | notFound
  | notDirectory
  | isDirectory
  | alreadyExists
  | invalidArgument
  | nameTooLong
  | notEmpty
  | noSpace
  | ioFailure
  /-- A temporary file's name pattern holding a separator. -/
  | separatorInPattern
  deriving Repr, BEq, DecidableEq, Inhabited

namespace Errno

def message : Errno → String
  | .notFound => "no such file or directory"
  | .notDirectory => "not a directory"
  | .isDirectory => "is a directory"
  | .alreadyExists => "file exists"
  | .invalidArgument => "invalid argument"
  | .nameTooLong => "file name too long"
  | .notEmpty => "directory not empty"
  | .noSpace => "no space left on device"
  | .ioFailure => "input/output error"
  | .separatorInPattern => "pattern contains path separator"

end Errno

/-- A file operation that failed: on one path, or on two (a rename). -/
inductive SystemError where
  | onPath (operation path : String) (errno : Errno)
  | onLink (operation source target : String) (errno : Errno)
  deriving Repr, BEq, Inhabited

namespace SystemError

def errno : SystemError → Errno
  | .onPath _ _ errno => errno
  | .onLink _ _ _ errno => errno

def message : SystemError → String
  | .onPath operation path errno => operation ++ " " ++ path ++ ": " ++ errno.message
  | .onLink operation source target errno =>
    operation ++ " " ++ source ++ " " ++ target ++ ": " ++ errno.message

end SystemError

/-- Why an operation failed. -/
inductive Failure where
  /-- A required field, or the id of an ingredient (then `role` names it), is missing. -/
  | missingField (recipe field role : String)
  | invalidField (recipe field reason : String)
  /-- An ingredient resolved outside the namespace ingredients must come from. -/
  | roleType (recipe role path allowed : String)
  | emptyIngredients (recipe : String)
  /-- The recipe table cannot be read; `cause` is the text of what went wrong underneath. -/
  | malformedTable (path reason : String) (cause : Option String)
  /-- An identifier that cannot name a resource file. -/
  | unresolvable (id reason : String)
  /-- No folder holds the resource; `searched` lists the prefixes of the folders looked in. -/
  | notFound (id : String) (searched : List String)
  | system (error : SystemError)
  | noImages (directory : String)
  /-- The command line asks to stop with an exit code. -/
  | exit (code : Nat) (message : String)
  /-- Some records of a batch failed; each failure is listed with the label of its record. -/
  | batch (total : Nat) (failures : List (String × Failure))
  | canceled
  /-- A failure with a context written before it. -/
  | within (context : String) (inner : Failure)
  | plain (message : String)
  deriving Inhabited

namespace Failure

/-- The classes of failures, in order of precedence: a failure belongs to the first class
that it or a failure it wraps is in. -/
inductive Kind where
  | exit
  | batch
  | malformedTable
  | missingField
  | invalidField
  | roleType
  | emptyIngredients
  | resolution
  | noImages
  | link
  | path
  | other
  deriving Repr, BEq, DecidableEq

def message : Failure → String
  | .missingField recipe field role =>
    if role.isEmpty then "recipe " ++ recipe ++ ": missing required field " ++ Text.quote field
    else "recipe " ++ recipe ++ ": " ++ role ++ " ingredient is missing " ++ Text.quote field
  | .invalidField recipe field reason =>
    "recipe " ++ recipe ++ ": invalid " ++ Text.quote field ++ ": " ++ reason
  | .roleType recipe role path allowed =>
    "recipe " ++ recipe ++ ": invalid ingredient " ++ Text.quote role ++ ": " ++ path ++
      " (must be under " ++ allowed ++ ")"
  | .emptyIngredients recipe => "recipe " ++ recipe ++ " has no ingredients defined"
  | .malformedTable path reason cause =>
    "malformed recipe table " ++ path ++ ": " ++ reason ++
      (match cause with
       | some text => ": " ++ text
       | none => "")
  | .unresolvable id reason => "resource " ++ Text.quote id ++ " cannot be resolved: " ++ reason
  | .notFound id searched =>
    "resource " ++ Text.quote id ++ " not found in supported folders (" ++
      ", ".intercalate searched ++ ")"
  | .system error => error.message
  | .noImages directory => "no JPG files found in " ++ directory
  | .exit _ message => message
  | .batch total failures =>
    toString failures.length ++ " of " ++ toString total ++ " recipes failed:" ++
      String.join (failures.attach.map fun ⟨(_, failure), _⟩ => "\n  " ++ message failure)
  | .canceled => "context canceled"
  | .within context inner => context ++ ": " ++ message inner
  | .plain message => message
decreasing_by
  all_goals simp_wf
  all_goals first
    | omega
    | (rename_i member
       have := List.sizeOf_lt_of_mem member
       simp at this
       omega)

def kind : Failure → Kind
  | .missingField .. => .missingField
  | .invalidField .. => .invalidField
  | .roleType .. => .roleType
  | .emptyIngredients .. => .emptyIngredients
  | .malformedTable .. => .malformedTable
  | .unresolvable .. => .resolution
  | .notFound .. => .resolution
  | .system (.onPath ..) => .path
  | .system (.onLink ..) => .link
  | .noImages .. => .noImages
  | .exit .. => .exit
  | .batch .. => .batch
  | .canceled => .other
  | .within _ inner => kind inner
  | .plain .. => .other

end Failure

end Alembic
