/-
The variables of a build.

Two variables always name the build; a third gives the address of the
file server when there is one.  User variables come on top: a later one
replaces an earlier one of the same key, and any of them replaces a
reserved one.  Malformed entries are passed over.

The variables are kept in the order of their keys, by code point, each
key once, so the written text does not depend on the order in which the
user listed different keys.
-/
import RemoteProvision.Environment.Assignment
import RemoteProvision.Feed

namespace RemoteProvision.Environment

-- =========================================================== types

/-- What the build is called and what kind of builder made it. -/
structure BuildIdentity where
  buildName : String
  builderType : String
deriving DecidableEq

/-- Variables in increasing order of their keys. -/
abbrev Variables := List (String × String)

/-- What the text of the variables is made from. -/
structure Assembler where
  identity : BuildIdentity
  userVars : List String
  format : String
  elevatedFormat : String

def buildNameVar : String := "PACKER_BUILD_NAME"
def builderTypeVar : String := "PACKER_BUILDER_TYPE"
def httpAddrVar : String := "PACKER_HTTP_ADDR"

-- ======================================================= variables

/-- Sets a variable, in place of an earlier value or else where its key
belongs. -/
def Variables.set (key value : String) : Variables → Variables
  | [] => [(key, value)]
  | (k, v) :: rest =>
    if key = k then (key, value) :: rest
    else if key < k then (key, value) :: (k, v) :: rest
    else (k, v) :: Variables.set key value rest

/-- The reserved variables.  An empty address counts as none. -/
def Assembler.reserved (a : Assembler) (address : Option String) :
    Variables :=
  let named := Variables.set builderTypeVar a.identity.builderType
    (Variables.set buildNameVar a.identity.buildName [])
  match address with
  | none => named
  | some addr =>
    if addr.isEmpty then named
    else Variables.set httpAddrVar addr named

/-- All variables, for one answer of the address source. -/
def Assembler.variables (a : Assembler) (address : Option String) :
    Variables :=
  a.userVars.foldl
    (fun vars text =>
      match splitAssignment text with
      | none => vars
      | some (key, value) => Variables.set key value vars)
    (a.reserved address)

-- ========================================================= writing

/-- The format that a run uses. -/
def Assembler.formatFor (a : Assembler) (elevated : Bool) : String :=
  if elevated then a.elevatedFormat else a.format

/-- The variables as one text. -/
def Assembler.assemble (a : Assembler) (elevated : Bool)
    (address : Option String) : String :=
  String.join ((a.variables address).map fun kv =>
    formatAssignment (a.formatFor elevated) kv.1 kv.2)

end RemoteProvision.Environment
