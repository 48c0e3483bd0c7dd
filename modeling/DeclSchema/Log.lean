/-!
Log records as data. A computation that reports what it does returns its records together with
its outcome; a failure keeps the records written before it.
-/

namespace DeclSchema

inductive Level where
  | debug
  | info
  | warning
deriving DecidableEq

def Level.name : Level → String
  | .debug => "DEBUG"
  | .info => "INFO"
  | .warning => "WARNING"

def Level.rank : Level → Nat
  | .debug => 10
  | .info => 20
  | .warning => 30

-- The part of the converter that writes a record.
inductive Component where
  | sourceReader
  | typeMapper
  | extractor
  | assembler
  | pipeline
deriving DecidableEq

def Component.name : Component → String
  | .sourceReader => "source_parser"
  | .typeMapper => "type_mapper"
  | .extractor => "extractor"
  | .assembler => "rewriter"
  | .pipeline => "pipeline"

structure Record where
  level : Level
  component : Component
  message : String
deriving DecidableEq

structure Logged (α : Type) where
  records : List Record
  value : α

namespace Logged

variable {α β : Type}

instance : Monad Logged where
  pure a := ⟨[], a⟩
  bind x f := ⟨x.records ++ (f x.value).records, (f x.value).value⟩

instance : LawfulMonad Logged := LawfulMonad.mk' Logged
  (by intro α x; cases x; simp [Functor.map])
  (by intro α β a f; simp [pure, bind])
  (by intro α β γ x f g; simp [bind])

def write (level : Level) (component : Component) (message : String) : Logged Unit :=
  ⟨[⟨level, component, message⟩], ()⟩

theorem pure_value (a : α) : (pure a : Logged α).value = a := rfl

theorem pure_records (a : α) : (pure a : Logged α).records = [] := rfl

theorem bind_value (x : Logged α) (f : α → Logged β) : (x >>= f).value = (f x.value).value := rfl

theorem bind_records (x : Logged α) (f : α → Logged β) :
    (x >>= f).records = x.records ++ (f x.value).records := rfl

end Logged

-- A logged computation that may fail.
abbrev Traced (ε α : Type) := ExceptT ε Logged α

namespace Traced

variable {ε α : Type}

def write (level : Level) (component : Component) (message : String) : Traced ε Unit :=
  ExceptT.lift (Logged.write level component message)

def ofLogged (x : Logged α) : Traced ε α := ExceptT.lift x

def ofExcept (x : Except ε α) : Traced ε α := ExceptT.mk (pure x)

def outcome (x : Traced ε α) : Except ε α := Logged.value (ExceptT.run x)

def records (x : Traced ε α) : List Record := Logged.records (ExceptT.run x)

theorem bind_outcome {β : Type} (x : Traced ε α) (f : α → Traced ε β) :
    (x >>= f).outcome = x.outcome >>= fun a => (f a).outcome := by
  change Logged.value (ExceptT.bindCont f (Logged.value (ExceptT.run x))) = _
  unfold outcome
  cases Logged.value (ExceptT.run x) <;> rfl

@[simp] theorem ofExcept_outcome (x : Except ε α) : (ofExcept x).outcome = x := rfl

@[simp] theorem pure_outcome (a : α) : (pure a : Traced ε α).outcome = .ok a := rfl

end Traced

end DeclSchema
