import PixelPipeline.Proofs.ZeroBody

namespace PixelPipeline

open Outcome

namespace Formal

def argument? (const : Bool) (f : Formal) : Option Argument :=
  match f.pointer, f.element with
  | true, .float width => if f.const = const then some ⟨f.name, UInt32.ofNat width⟩ else none
  | _, _ => none

def scalar? (element : Element) (f : Formal) : Option String :=
  if f.pointer = false ∧ f.element = element then some f.name else none

variable (const other : Bool) (element : Element) (a : Argument) (name : String)

@[simp] theorem argument?_buffer : (buffer other a).argument? const = if other = const then some a else none := by
  simp [argument?, buffer]

@[simp] theorem argument?_int : (int name).argument? const = none := rfl

@[simp] theorem argument?_float : (float name).argument? const = none := rfl

@[simp] theorem scalar?_buffer : (buffer const a).scalar? element = none := by simp [scalar?, buffer]

@[simp] theorem scalar?_int : (int name).scalar? element = if element = .int then some name else none := by
  simp [scalar?, int, eq_comm]

@[simp] theorem scalar?_float : (float name).scalar? element = if element = .float 1 then some name else none := by
  simp [scalar?, float, eq_comm]

end Formal

def Prototype.signature (q : Prototype) : Signature :=
  let formals := q.formals.dropLast.dropLast
  { kernel := q.kernel
    inputs := formals.filterMap (Formal.argument? true)
    outputs := formals.filterMap (Formal.argument? false)
    ints := formals.filterMap (Formal.scalar? .int)
    floats := formals.filterMap (Formal.scalar? (.float 1)) }

namespace Signature

theorem signature_prototype (s : Signature) : s.prototype.signature = s := by
  simp [Prototype.signature, prototype, List.filterMap_append, List.filterMap_map, Function.comp_def]

/-- Reads the signature of a generated unit. A prototype of any other shape is not that of a signature. -/
def read? (unit : String) : Option Signature := do
  let q ← Prototype.read unit
  if q.signature.prototype = q then some q.signature else none

theorem read?_eq_some {unit : String} {s : Signature} :
    read? unit = some s ↔ Prototype.read unit = some s.prototype := by
  rw [read?, Option.bind_eq_bind, Option.bind_eq_some_iff]
  constructor
  · rintro ⟨q, read, checked⟩
    split at checked
    · cases checked
      rwa [‹q.signature.prototype = q›]
    · cases checked
  · intro read
    exact ⟨s.prototype, read, by rw [signature_prototype, if_pos rfl]⟩

theorem read?_prologue {s : Signature} {e : Environment} (compute : e = .openCL ∨ e = .cuda) (named : s.Named) :
    read? (Scaffold.ofSignature s e).prologue = some s := by
  have read {d : Dialect} (known : d = .openCL ∨ d = .cuda) : read? (d.prologue s) = some s :=
    read?_eq_some.mpr (Dialect.read_prologue known named [] [] (by simp) List.not_mem_nil)
  rcases compute with rfl | rfl
  · exact read (.inl rfl)
  · exact read (.inr rfl)

end Signature

def Registry.ports (r : Registry) (bindings : List Binding) : List (String × Option UInt32) :=
  bindings.map fun b => (b.name, (r.get b.buffer).toOption.map (·.channels))

/-- Two kernels that nothing in a signature tells apart. Neither sources nor values of parameters matter, and the
buffers do so by their channels only. -/
structure Kernel.SameInterface (k : Kernel) (r : Registry) (k' : Kernel) (r' : Registry) : Prop where
  name : k.name = k'.name
  inputs : r.ports k.inputs = r'.ports k'.inputs
  outputs : r.ports k.outputs = r'.ports k'.outputs
  ints : k.parameters.ints.map (·.1) = k'.parameters.ints.map (·.1)
  floats : k.parameters.floats.map (·.1) = k'.parameters.floats.map (·.1)

namespace Signature

theorem ports_of_resolve {r : Registry} {bindings : List Binding} {arguments : List Argument}
    (resolved : resolve r bindings = .ok arguments) :
    r.ports bindings = arguments.map fun a => (a.name, some a.channels) := by
  rw [resolve_eq_mapM, mapM_eq_ok] at resolved
  induction resolved with
  | nil => rfl
  | @cons b a _ _ first _ ih =>
    obtain ⟨buffer, held, rfl⟩ := map_eq_ok.mp first
    have port : (b.name, (r.get b.buffer).toOption.map (·.channels)) = (b.name, some buffer.channels) := by
      rw [held]
      rfl
    exact congr (congrArg List.cons port) ih

theorem arguments_eq_iff {first second : List Argument} :
    first.map (fun a => (a.name, some a.channels)) = second.map (fun a => (a.name, some a.channels)) ↔
      first = second := by
  have injective : Function.Injective fun a : Argument => (a.name, some a.channels) := by
    intro a b same
    obtain ⟨name, channels⟩ := Prod.mk.inj same
    obtain ⟨_, _⟩ := a
    cases name
    cases Option.some.inj channels
    rfl
  exact (List.map_injective_iff.mpr injective).eq_iff

theorem eq_iff_sameInterface {k k' : Kernel} {r r' : Registry} {s s' : Signature} (signed : ofKernel k r = .ok s)
    (signed' : ofKernel k' r' = .ok s') : s = s' ↔ k.SameInterface r k' r' := by
  obtain ⟨inputs, outputs, first, second, rfl⟩ := ofKernel_eq_ok.mp signed
  obtain ⟨inputs', outputs', first', second', rfl⟩ := ofKernel_eq_ok.mp signed'
  have ins := ports_of_resolve first
  have outs := ports_of_resolve second
  have ins' := ports_of_resolve first'
  have outs' := ports_of_resolve second'
  constructor
  · intro same
    obtain ⟨name, rfl, rfl, ints, floats⟩ := Signature.mk.inj same
    exact ⟨name, ins.trans ins'.symm, outs.trans outs'.symm, ints, floats⟩
  · intro same
    have inputs := arguments_eq_iff.mp (ins.symm.trans (same.inputs.trans ins'))
    have outputs := arguments_eq_iff.mp (outs.symm.trans (same.outputs.trans outs'))
    rw [same.name, inputs, outputs, same.ints, same.floats]

end Signature

/-- A prologue tells the whole interface of its kernel: the signature can be read from it, and kernels with the same
prologue have the same interface. -/
theorem Scaffold.prologue_eq_iff_sameInterface {e : Environment} (compute : e = .openCL ∨ e = .cuda)
    {k k' : Kernel} {r r' : Registry} {s s' : Scaffold} (named : k.Named) (named' : k'.Named)
    (made : ofKernel k r e = .ok s) (made' : ofKernel k' r' e = .ok s') :
    (∃ signature, Signature.ofKernel k r = .ok signature ∧ Signature.read? s.prologue = some signature) ∧
      (s.prologue = s'.prologue ↔ k.SameInterface r k' r') := by
  obtain ⟨signature, signed, same⟩ := bind_eq_ok.mp made
  obtain ⟨signature', signed', same'⟩ := bind_eq_ok.mp made'
  cases same
  cases same'
  have read := Signature.read?_prologue compute (named.signature signed)
  have read' := Signature.read?_prologue compute (named'.signature signed')
  refine ⟨⟨signature, signed, read⟩, ?_⟩
  rw [← Signature.eq_iff_sameInterface signed signed']
  constructor
  · intro text
    rw [text, read'] at read
    exact (Option.some.inj read).symm
  · rintro rfl
    rfl

namespace Kernel

def rescaled : Kernel :=
  { Processor.scaled with
    source := ""
    inputs := [⟨"A", ⟨⟨0⟩, 1⟩⟩]
    outputs := [⟨"B", ⟨⟨0⟩, 0⟩⟩]
    parameters := ⟨[⟨"n", .int 2⟩, ⟨"gain", .float .zero⟩]⟩ }

theorem rescaled_prologue :
    let k := Processor.scaled
    let swapped : Registry := ⟨⟨0⟩, 5, 1, [.zeroed "rgba" 5 1 4, .zeroed "rgb" 5 1 3]⟩
    let s := Scaffold.ofSignature ⟨"k", [⟨"A", 3⟩], [⟨"B", 4⟩], ["n"], ["gain"]⟩ .cuda
    let wide := Scaffold.ofSignature ⟨"k", [⟨"A", 4⟩], [⟨"B", 3⟩], ["n"], ["gain"]⟩ .cuda
    (k.Named ∧ rescaled.Named ∧ Scaffold.ofKernel k .colors .cuda = .ok s ∧
      Scaffold.ofKernel rescaled swapped .cuda = .ok s ∧ Scaffold.ofKernel rescaled .colors .cuda = .ok wide) ∧
      k.SameInterface .colors rescaled swapped ∧ s.prologue ≠ wide.prologue := by
  intro k swapped s wide
  have named : k.Named := ⟨by decide, by decide, by decide⟩
  have named' : rescaled.Named := ⟨by decide, by decide, by decide⟩
  have made : Scaffold.ofKernel k .colors .cuda = .ok s := rfl
  have same : Scaffold.ofKernel rescaled swapped .cuda = .ok s := rfl
  have other : Scaffold.ofKernel rescaled .colors .cuda = .ok wide := rfl
  have told := Scaffold.prologue_eq_iff_sameInterface (.inr rfl) named named' made same
  have apart := Scaffold.prologue_eq_iff_sameInterface (.inr rfl) named named' made other
  refine ⟨⟨named, named', made, same, other⟩, told.2.mp rfl, fun text => ?_⟩
  have ports : Registry.colors.ports k.inputs = Registry.colors.ports rescaled.inputs := (apart.2.mp text).inputs
  revert ports
  decide

end Kernel

end PixelPipeline
