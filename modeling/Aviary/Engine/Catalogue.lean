import Aviary.Engine

/-!
# Where engines come from

An engine is named by the dotted name of a module and a name in it, joined by a colon.  A catalogue says which
modules there are, which of them contain others, and what the names in them stand for; not everything in a module is
an engine.
-/

namespace Aviary

/-- Why a path names nothing. -/
inductive LoadFault where
  | malformed (path : String)
  /-- A module name that starts with a dot. -/
  | relative (name : String)
  /-- No module has the name `missing`, which is the name looked for or the beginning of it. -/
  | missingModule (name missing : String)
  /-- The module `parent` contains no others, so it does not contain `missing`. -/
  | notPackage (name missing parent : String)
  | missingName (name item : String)
  deriving DecidableEq

def LoadFault.message : LoadFault → String
  | malformed path => "engine must look like module:Class, got " ++ Text.quoted path
  | relative name => "cannot import relative module " ++ Text.quoted name
  | missingModule name missing =>
    "cannot import engine module " ++ Text.quoted name ++ ": No module named " ++ Text.quoted missing
  | notPackage name missing parent =>
    "cannot import engine module " ++ Text.quoted name ++ ": No module named " ++ Text.quoted missing ++ "; "
      ++ Text.quoted parent ++ " is not a package"
  | missingName name item => "module " ++ Text.quoted name ++ " has no engine " ++ Text.quoted item

/-- Something in a module: an engine, or something that fails when it is asked for its defaults. -/
structure Entry where
  name : String
  /-- What it calls itself. -/
  title : String
  engine : Except Fault Engine

structure Module where
  name : String
  /-- Whether the module contains other modules. -/
  isPackage : Bool
  entries : List Entry

/-- The modules that there are. -/
structure Catalogue where
  modules : List Module

namespace Catalogue

def find? (catalogue : Catalogue) (name : String) : Option Module := catalogue.modules.find? (·.name == name)

/-- The beginnings of a dotted name that end where a dot or the whole name ends, shortest first; `before` is what was
read of the name so far, in reverse. -/
def beginnings (before : List Char) : List Char → List String
  | [] => [String.ofList before.reverse]
  | c :: cs =>
    if c = '.' then String.ofList before.reverse :: beginnings (c :: before) cs else beginnings (c :: before) cs

/-- Goes through the beginnings of the name of a module, each of which has to be a module inside the one before. -/
def descend (catalogue : Catalogue) (name : String) (parent : Module) : List String → Except LoadFault Module
  | [] => .ok parent
  | next :: rest =>
    if !parent.isPackage then .error (.notPackage name next parent.name)
    else
      match catalogue.find? next with
      | none => .error (.missingModule name next)
      | some m => catalogue.descend name m rest

/-- The module of the given dotted name. -/
def module (catalogue : Catalogue) (name : String) : Except LoadFault Module :=
  catalogue.descend name ⟨"", true, []⟩ (beginnings [] name.toList)

/-- What a path stands for. -/
def load (catalogue : Catalogue) (path : String) : Except LoadFault Entry :=
  let name := String.ofList (path.toList.takeWhile (· != ':'))
  let item := String.ofList ((path.toList.dropWhile (· != ':')).drop 1)
  if name.isEmpty || item.isEmpty then .error (.malformed path)
  else if name.toList.head? = some '.' then .error (.relative name)
  else
    match catalogue.module name with
    | .error fault => .error fault
    | .ok m =>
      match m.entries.find? (·.name == item) with
      | none => .error (.missingName name item)
      | some entry => .ok entry

end Catalogue

end Aviary
