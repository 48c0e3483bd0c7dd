import DeclSchema.Schema.Document

/-!
Repeated definitions of an object type, made one. The first definition keeps its place and its
description; of the others it takes the fields and interfaces it does not have.
-/

namespace DeclSchema.Assembly

open Schema

variable {α : Type}

def addMissing (key : α → String) (kept more : List α) : List α :=
  more.foldl (fun kept item => if kept.any (key · = key item) then kept else kept ++ [item]) kept

def absorb (first other : ObjectType) : ObjectType :=
  { first with
    fields := addMissing Field.name first.fields other.fields
    interfaces := addMissing id first.interfaces other.interfaces }

def objectNamed? (name : String) : Definition → Option ObjectType
  | .object type => if type.name = name then some type else none
  | _ => none

def objectsNamed (name : String) (definitions : List Definition) : List ObjectType :=
  definitions.filterMap (objectNamed? name)

-- The first item that has the property becomes another one.
def replaceFirst (p : α → Bool) (item : α) : List α → List α
  | [] => []
  | head :: rest => if p head then item :: rest else head :: replaceFirst p item rest

-- Of the items that have the property, the first one becomes another one and the rest goes.
def replaceAll (p : α → Bool) (item : α) : List α → List α
  | [] => []
  | head :: rest => if p head then item :: rest.filter (!p ·) else head :: replaceAll p item rest

def mergeNamed (name : String) (definitions : List Definition) : List Definition :=
  match objectsNamed name definitions with
  | first :: second :: more =>
    replaceAll (·.isObjectNamed name) (.object ((second :: more).foldl absorb first)) definitions
  | _ => definitions

-- The first object type of that name goes to the end.
def moveLast (name : String) (definitions : List Definition) : List Definition :=
  match definitions.find? (·.isObjectNamed name) with
  | some definition => definitions.eraseP (·.isObjectNamed name) ++ [definition]
  | none => definitions

-- The place of the first object type of that name.
def position? (name : String) (definitions : List Definition) : Option Nat :=
  definitions.findIdx? (·.isObjectNamed name)

end DeclSchema.Assembly
