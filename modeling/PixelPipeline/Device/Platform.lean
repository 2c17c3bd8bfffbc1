import PixelPipeline.Device.Adapter

namespace PixelPipeline

inductive DeviceChoice where
  | auto
  | index (ordinal : Nat)
  deriving DecidableEq, Repr

def DeviceChoice.label : DeviceChoice → String
  | auto => "Auto"
  | index ordinal => s!"Index({ordinal})"

structure DeviceRequest where
  environment : Environment
  device : DeviceChoice := .auto
  block : UInt32 := 16
  deriving DecidableEq, Repr

/-- A way to open devices with memory `σ`, of which something is left even where opening fails. -/
structure Platform (σ : Type) where
  isCompiled : Environment → Bool
  isAvailable : Environment → Bool
  openDevice : DeviceRequest → Except Error (Adapter σ) × σ

namespace Platform

def bare : Platform Unit where
  isCompiled _ := false
  isAvailable _ := false
  openDevice r := (.error (.unavailable s!"{r.environment.name} feature not enabled"), ())

variable {σ : Type}

def describe (p : Platform σ) (e : Environment) : String :=
  let mark := if p.isAvailable e then "+" else "-"
  let note := if p.isCompiled e then "" else " (not compiled in)"
  s!"[{mark}] {e.title}: {e.description}{note}\n"

def report (p : Platform σ) : String := String.join (Environment.all.map p.describe)

def describeDevice (p : Platform σ) (e : Environment) : String :=
  match (p.openDevice { environment := e }).1 with
  | .ok adapter => s!"    {e.name}: {adapter.name}\n"
  | .error error => s!"    {e.name}: {error.message}\n"

def deviceReport (p : Platform σ) : String :=
  String.join ((Environment.all.filter p.isAvailable).map p.describeDevice)

end Platform

end PixelPipeline
