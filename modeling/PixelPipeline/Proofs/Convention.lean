import PixelPipeline.Proofs.Interface
import PixelPipeline.Proofs.LastBuild

namespace PixelPipeline

open Outcome Event

variable {σ : Type}

def Action.KeepsKernels : Action → Prop
  | replaceKernel .. => False
  | _ => True

instance : DecidablePred Action.KeepsKernels
  | .replaceKernel .. => .isFalse id
  | .setDimensions .. | .createBuffer .. | .createKernel _ | .editBuffer .. | .editKernel .. | .replaceBuffer ..
  | .allocate | .build | .run | .upload _ | .download _ => .isTrue trivial

theorem Action.KeepsKernels.inPlace_or {act : Action} (keeps : act.KeepsKernels) :
    act.EditsInPlace ∨ ∃ id b, act = .replaceBuffer id b := by
  cases act with
  | replaceBuffer id b => exact .inr ⟨id, b, rfl⟩
  | replaceKernel => cases keeps
  | _ => exact .inl trivial

namespace Processor

variable {events : List (Event (Recorded σ))} {p p' : Processor (Recorded σ)} {act : Action}
  {answer : Except Error Unit} {environment : Environment}

theorem Step.of_replaceBuffer {id : BufferId} {b : Buffer} (step : p.Step (.replaceBuffer id b) answer p') :
    p'.graph.kernels = p.graph.kernels ∧ p'.graph.owner = p.graph.owner := by
  cases step with
  | edited only changed _ =>
    cases Action.operated only changed with
    | bufferReplaced => exact ⟨rfl, rfl⟩
  | refused => exact ⟨rfl, rfl⟩

theorem Step.keeps_kernels (step : p.Step act answer p') (keeps : act.KeepsKernels) :
    Kept Kernel.Grows p.graph.kernels p'.graph.kernels := by
  rcases keeps.inPlace_or with inPlace | ⟨id, b, rfl⟩
  · exact (step.grows inPlace).kernels
  · rw [step.of_replaceBuffer.1]
    exact .refl (fun _ => .of_same rfl rfl) _

theorem Step.keeps_values (step : p.Step act answer p') (keeps : act.KeepsKernels)
    (valued : Valued events p.graph) : Valued (events ++ [⟨p, act, answer, p'⟩]) p'.graph := by
  rcases keeps.inPlace_or with inPlace | ⟨id, b, rfl⟩
  · exact valued.step inPlace step
  · obtain ⟨kernels, owner⟩ := step.of_replaceBuffer
    exact valued.unchanged (fun _ _ => rfl) owner kernels

theorem Step.keeps_environment (step : p.Step act answer p') : p'.graph.environment = p.graph.environment := by
  cases step with
  | edited only changed _ => cases act.operated only changed <;> rfl
  | _ => rfl

structure Keeps (environment : Environment) (events : List (Event (Recorded σ))) (p : Processor (Recorded σ)) :
    Prop where
  valued : Valued events p.graph
  language : p.graph.environment = environment
  since : ∀ build, latest built events = some build → build.before.graph.environment = environment ∧
    (∀ k ∈ build.before.graph.kernels, k.parameters.Distinct) ∧
    Kept Kernel.Grows build.before.graph.kernels p.graph.kernels

theorem keeps_history (a : Adapter σ) (memory : σ) (owner : Owner) (acts : List Action)
    (keeps : ∀ act ∈ acts, act.KeepsKernels) :
    Keeps a.environment ((watched a memory owner).history acts) ((watched a memory owner).play acts) := by
  refine history_induction (a := a) Action.KeepsKernels (motive := Keeps a.environment) ?_ ?_ acts keeps
  · exact ⟨.start _ rfl, rfl, by simp [latest]⟩
  · intro events p act answer p' keeps earlier step
    have grown := step.keeps_kernels keeps
    refine ⟨step.keeps_values keeps earlier.valued, step.keeps_environment.trans earlier.language,
      fun build last => ?_⟩
    rw [latest_concat] at last
    split at last
    · cases last
      exact ⟨earlier.language, earlier.valued.distinct, grown⟩
    · obtain ⟨language, distinct, since⟩ := earlier.since build last
      exact ⟨language, distinct, since.trans (fun _ _ _ => .trans) grown⟩

theorem grows_since_build (a : Adapter σ) (memory : σ) (owner : Owner) (acts : List Action)
    (inPlace : ∀ act ∈ acts, act.EditsInPlace) :
    ∀ build, latest built ((watched a memory owner).history acts) = some build →
      build.before.graph.Grows ((watched a memory owner).play acts).graph := by
  refine history_induction (a := a) Action.EditsInPlace (motive := fun events p => ∀ build,
    latest built events = some build → build.before.graph.Grows p.graph) (by simp [latest]) ?_ acts inPlace
  intro events p act answer p' inPlace earlier step build last
  rw [latest_concat] at last
  split at last
  · cases last
    exact step.grows inPlace
  · exact (earlier build last).trans (step.grows inPlace)

theorem planned_of_dispatches {planned : List (Except Error Launch)} {calls : List DeviceCall}
    (dispatched : Dispatches planned calls answer) {i : Nat} {l : Launch} {result : Except Error Unit}
    (called : calls[i]? = some (.dispatch l result)) : planned[i]? = some (.ok l) := by
  induction dispatched generalizing i with
  | nil | unplanned => simp at called
  | refused m fault rest =>
    cases i with
    | zero =>
      cases called
      rfl
    | succ => simp at called
  | next m later ih =>
    cases i with
    | zero =>
      cases called
      rfl
    | succ i => exact ih called

theorem planned_of_run {a : Adapter σ} (recorded : p.adapter = a.recorded) {i : Nat} {l : Launch}
    {result : Except Error Unit} (called : (p.event .run).calls[i]? = some (.dispatch l result)) :
    (p.stage = .built ∨ p.stage = .ready) ∧ (p.compiled.map (launch p.graph p.storage))[i]? = some (.ok l) := by
  have step : p.Step .run (p.event .run).answer (p.event .run).after := run_step recorded
  generalize after : (p.event .run).after = p' at step
  generalize (p.event .run).answer = answer at step
  cases step with
  | edited only => cases only
  | refused =>
    rw [Event.calls_of_same after] at called
    cases called
  | ran memory late dispatched =>
    have calls := Event.calls_eq (e := p.event .run) (congrArg (·.memory.calls) after)
    rw [calls] at called
    exact ⟨late, planned_of_dispatches dispatched called⟩
  | halted fault memory late dispatched =>
    have calls := Event.calls_eq (e := p.event .run) (congrArg (·.memory.calls) after)
    rw [calls] at called
    exact ⟨late, planned_of_dispatches dispatched called⟩

theorem forall₂_getElem? {α β : Type} {related : α → β → Prop} {xs : List α} {ys : List β}
    (all : List.Forall₂ related xs ys) {i : Nat} {x : α} (found : xs[i]? = some x) :
    ∃ y, ys[i]? = some y ∧ related x y := by
  induction all generalizing i with
  | nil => simp at found
  | cons first _ ih =>
    cases i with
    | zero =>
      cases found
      exact ⟨_, rfl, first⟩
    | succ i => exact ih found

theorem BuiltFrom.at_position {build : Event (Recorded σ)} {units : List SourceUnit} {programs : List Program}
    {i : Nat} {l : Launch} (made : BuiltFrom events build units programs p)
    (planned : (p.compiled.map (launch p.graph p.storage))[i]? = some (.ok l)) :
    ∃ k source program, build.before.graph.kernels[i]? = some k ∧
      k.assemble build.before.graph.registry build.before.graph.environment = .ok source ∧
      build.calls[i]? = some (.compile k.name source (.ok program)) ∧
      launch p.graph p.storage (compiledEntry (⟨build.before.graph.owner, i⟩, k) program) = .ok l := by
  rw [made.compiled, made.assembled.compiled, List.getElem?_map, Option.map_eq_some_iff] at planned
  obtain ⟨c, found, planned⟩ := planned
  rw [List.getElem?_zipWith_eq_some] at found
  obtain ⟨entry, program, listed, given, rfl⟩ := found
  obtain ⟨u, prepared, -, kernel, assembled⟩ := forall₂_getElem? made.assembled listed
  rw [Graph.kernelEntries, List.getElem?_mapIdx, Option.map_eq_some_iff] at listed
  obtain ⟨k, known, rfl⟩ := listed
  have compiled : (DeviceCall.compiles units programs)[i]? = some (.compile k.name u.source (.ok program)) := by
    rw [DeviceCall.compiles, List.getElem?_zipWith_eq_some]
    exact ⟨u, program, prepared, given, by rw [kernel]⟩
  -- All compilations come before the releases, so the position is the same among the calls of the build.
  have early : i < (DeviceCall.compiles units programs).length := (List.getElem?_eq_some_iff.mp compiled).1
  refine ⟨k, u.source, program, known, assembled, ?_, planned⟩
  rw [made.calls, List.getElem?_append_left early, compiled]

end Processor

structure Kernel.Named (k : Kernel) : Prop where
  name : Text.isIdentifier k.name
  bindings : ∀ b ∈ k.inputs ++ k.outputs, Text.isIdentifier b.name
  parameters : ∀ q ∈ k.parameters.entries, Text.isIdentifier q.name

theorem Kernel.assemble_fragment {k : Kernel} {r : Registry} {e : Environment} {source : String}
    (fragment : ¬ e.isCompleteUnit k.source) (made : k.assemble r e = .ok source) :
    ∃ s, Signature.ofKernel k r = .ok s ∧ source = e.link ((Scaffold.ofSignature s e).wrap k.source) := by
  rw [assemble, if_neg fragment, bind_eq_ok] at made
  obtain ⟨scaffold, described, linked⟩ := made
  obtain ⟨s, signed, same⟩ := bind_eq_ok.mp described
  cases same
  cases linked
  exact ⟨s, signed, rfl⟩

theorem Signature.ofKernel_eq_ok {k : Kernel} {r : Registry} {s : Signature} : ofKernel k r = .ok s ↔
    ∃ inputs outputs, resolve r k.inputs = .ok inputs ∧ resolve r k.outputs = .ok outputs ∧
      s = ⟨k.name, inputs, outputs, k.parameters.ints.map (·.1), k.parameters.floats.map (·.1)⟩ := by
  simp only [ofKernel, bind_eq_ok]
  constructor
  · rintro ⟨inputs, first, outputs, second, made⟩
    exact ⟨inputs, outputs, first, second, (Except.ok.inj made).symm⟩
  · rintro ⟨inputs, outputs, first, second, rfl⟩
    exact ⟨inputs, first, outputs, second, rfl⟩

theorem Signature.names_of_resolve {r : Registry} {bindings : List Binding} {arguments : List Argument}
    (resolved : resolve r bindings = .ok arguments) : arguments.map (·.name) = bindings.map (·.name) := by
  rw [resolve_eq_mapM, mapM_eq_ok] at resolved
  induction resolved with
  | nil => rfl
  | cons first _ ih =>
    obtain ⟨buffer, -, rfl⟩ := map_eq_ok.mp first
    rw [List.map_cons, ih, List.map_cons]

theorem Signature.named_of_resolve {r : Registry} {bindings : List Binding} {arguments : List Argument}
    (resolved : resolve r bindings = .ok arguments) (named : ∀ b ∈ bindings, Text.isIdentifier b.name) :
    ∀ a ∈ arguments, Text.isIdentifier a.name := by
  have listed : ∀ name ∈ arguments.map (·.name), Text.isIdentifier name := by
    rw [names_of_resolve resolved]
    exact List.forall_mem_map.mpr named
  exact List.forall_mem_map.mp listed

namespace ParameterSet

variable (s : ParameterSet)

theorem ints_names : s.ints.map (·.1) = (s.entries.filter (·.value.type = .int)).map (·.name) := by
  obtain ⟨entries⟩ := s
  simp only [ints]
  induction entries with
  | nil => rfl
  | cons q rest ih =>
    obtain ⟨name, n | x⟩ := q
    · exact congrArg (name :: ·) ih
    · exact ih

theorem floats_names : s.floats.map (·.1) = (s.entries.filter (·.value.type = .float)).map (·.name) := by
  obtain ⟨entries⟩ := s
  simp only [floats]
  induction entries with
  | nil => rfl
  | cons q rest ih =>
    obtain ⟨name, n | x⟩ := q
    · exact ih
    · exact congrArg (name :: ·) ih

theorem signatureOrder_map {β : Type} (int float : String → β) :
    s.signatureOrder.map (fun q => match q.value.type with | .int => int q.name | .float => float q.name) =
      (s.ints.map (·.1)).map int ++ (s.floats.map (·.1)).map float := by
  rw [ints_names, floats_names, signatureOrder, List.map_append, List.map_map, List.map_map]
  congr 1
  · refine List.map_congr_left fun q member => ?_
    have type : q.value.type = .int := by simpa using (List.mem_filter.mp member).2
    simp [type]
  · refine List.map_congr_left fun q member => ?_
    have type : q.value.type = .float := by simpa using (List.mem_filter.mp member).2
    simp [type]

end ParameterSet

theorem Kernel.Named.signature {k : Kernel} {r : Registry} {s : Signature} (named : k.Named)
    (signed : Signature.ofKernel k r = .ok s) : s.Named := by
  obtain ⟨inputs, outputs, first, second, rfl⟩ := Signature.ofKernel_eq_ok.mp signed
  obtain ⟨ins, outs⟩ := List.forall_mem_append.mp named.bindings
  have listed (kind : Parameter → Bool) :
      ∀ name ∈ (k.parameters.entries.filter kind).map (·.name), Text.isIdentifier name :=
    List.forall_mem_map.mpr fun q member => named.parameters q (List.mem_filter.mp member).1
  exact {
    kernel := named.name
    inputs := Signature.named_of_resolve first ins
    outputs := Signature.named_of_resolve second outs
    ints := k.parameters.ints_names ▸ listed _
    floats := k.parameters.floats_names ▸ listed _ }

def Formal.scalar (q : Parameter) : Formal :=
  match q.value.type with
  | .int => .int q.name
  | .float => .float q.name

/-- A pointer of the name of an argument, as wide as the buffer of its handle has channels in the graph. -/
def Formal.Points (g : Graph) (p : Processor σ) (const : Bool) (f : Formal) (argument : String × DeviceBuffer) :
    Prop :=
  ∃ id b, Processor.deviceBuffer p.graph p.storage id = .ok argument.2 ∧ g.buffer id = .ok b ∧
    f = ⟨const, .float b.channels.toNat, true, argument.1⟩

/-- Position by position, the arguments are what the prototype declares. -/
structure Launch.Fits (g : Graph) (p : Processor σ) (l : Launch) (q : Prototype) : Prop where
  kernel : q.kernel = l.kernel
  formals : ∃ inputs outputs, q.formals =
      inputs ++ outputs ++ l.parameters.map .scalar ++ [.int "width", .int "height"] ∧
    List.Forall₂ (Formal.Points g p true) inputs l.inputs ∧
    List.Forall₂ (Formal.Points g p false) outputs l.outputs

theorem Formal.Points.grow {g h : Graph} {p : Processor σ} {const : Bool} {f : Formal}
    {argument : String × DeviceBuffer} (points : Points g p const f argument) (grows : g.Grows h) :
    Points h p const f argument := by
  obtain ⟨id, b, handle, held, rfl⟩ := points
  obtain ⟨own, known⟩ := Registry.get_eq_ok.mp held
  obtain ⟨c, found, same⟩ := grows.buffers _ _ known
  have channels : c.channels = b.channels := congrArg (·.channels) same
  exact ⟨id, c, handle, Registry.get_eq_ok.mpr ⟨own.trans grows.owner.symm, found⟩, by rw [channels]⟩

theorem Launch.Fits.grow {g h : Graph} {p : Processor σ} {l : Launch} {q : Prototype} (fits : l.Fits g p q)
    (grows : g.Grows h) : l.Fits h p q := by
  obtain ⟨kernel, inputs, outputs, formals, reads, writes⟩ := fits
  exact ⟨kernel, inputs, outputs, formals, reads.imp fun _ _ points => points.grow grows,
    writes.imp fun _ _ points => points.grow grows⟩

theorem points_of_resolve {g : Graph} {p : Processor σ} {bindings : List Binding} {arguments : List Argument}
    {handles : List (String × DeviceBuffer)} (const : Bool)
    (signed : Signature.resolve g.registry bindings = .ok arguments)
    (passed : Processor.resolveBindings p.graph p.storage bindings = .ok handles) :
    List.Forall₂ (Formal.Points g p const) (arguments.map (.buffer const)) handles := by
  rw [Signature.resolve_eq_mapM, mapM_eq_ok] at signed
  rw [Processor.resolveBindings_eq_mapM, mapM_eq_ok] at passed
  induction signed generalizing handles with
  | nil =>
    cases passed
    exact .nil
  | @cons b a _ _ first _ ih =>
    cases passed with
    | cons given others =>
      obtain ⟨buffer, held, rfl⟩ := map_eq_ok.mp first
      obtain ⟨d, handle, rfl⟩ := map_eq_ok.mp given
      exact .cons ⟨b.buffer, buffer, handle, held, rfl⟩ (ih others)

theorem Formal.names_of_points {g : Graph} {p : Processor σ} {const : Bool} {formals : List Formal}
    {handles : List (String × DeviceBuffer)} (points : List.Forall₂ (Formal.Points g p const) formals handles) :
    handles.map (·.1) = formals.map (·.name) := by
  induction points with
  | nil => rfl
  | cons first _ ih =>
    obtain ⟨_, _, -, -, rfl⟩ := first
    exact congrArg (_ :: ·) ih

section

variable {k : Kernel} {l : Launch} {s : Signature} {g : Graph} {p : Processor σ}

def PassedFor (declared values : List Parameter) : Prop :=
  List.Forall₂ (fun d q => q.name = d.name ∧ q.value.type = d.value.type) declared values

theorem PassedFor.map_eq {β : Type} {declared values : List Parameter} (passed : PassedFor declared values)
    {make : Parameter → β}
    (same : ∀ q r : Parameter, q.name = r.name → q.value.type = r.value.type → make q = make r) :
    values.map make = declared.map make := by
  unfold PassedFor at passed
  induction passed with
  | nil => rfl
  | cons first _ ih => rw [List.map_cons, List.map_cons, ih, same _ _ first.1 first.2]

theorem fits_of_passed (signed : Signature.ofKernel k g.registry = .ok s)
    (name : l.kernel = k.name) (reads : Processor.resolveBindings p.graph p.storage k.inputs = .ok l.inputs)
    (writes : Processor.resolveBindings p.graph p.storage k.outputs = .ok l.outputs)
    (passed : PassedFor k.parameters.signatureOrder l.parameters) : l.Fits g p s.prototype := by
  obtain ⟨inputs, outputs, first, second, rfl⟩ := Signature.ofKernel_eq_ok.mp signed
  have scalars : l.parameters.map Formal.scalar =
      (k.parameters.ints.map (·.1)).map .int ++ (k.parameters.floats.map (·.1)).map .float := by
    rw [passed.map_eq fun q r name type => by simp only [Formal.scalar, name, type]]
    exact k.parameters.signatureOrder_map Formal.int Formal.float
  refine ⟨name.symm, _, _, ?_, points_of_resolve true first reads, points_of_resolve false second writes⟩
  rw [scalars, ← List.append_assoc]
  rfl

theorem uniforms_of_passed (signed : Signature.ofKernel k g.registry = .ok s)
    (reads : Processor.resolveBindings p.graph p.storage k.inputs = .ok l.inputs)
    (passed : PassedFor k.parameters.signatureOrder l.parameters) :
    s.uniforms = l.inputs.map (fun argument => ("sampler2D", argument.1)) ++
      l.parameters.map (fun q => (q.value.type.name, q.name)) ++ [("float", "dx")] := by
  obtain ⟨inputs, outputs, first, -, rfl⟩ := Signature.ofKernel_eq_ok.mp signed
  have samplers : l.inputs.map (fun argument => ("sampler2D", argument.1)) =
      inputs.map fun a => ("sampler2D", a.name) := by
    have names := Formal.names_of_points (points_of_resolve true first reads)
    simpa [Function.comp_def, Formal.buffer] using congrArg (List.map ("sampler2D", ·)) names
  have scalars : l.parameters.map (fun q => (q.value.type.name, q.name)) =
      (k.parameters.ints.map (·.1)).map ("int", ·) ++ (k.parameters.floats.map (·.1)).map ("float", ·) := by
    rw [passed.map_eq fun q r name type => by simp only [name, type],
      ← k.parameters.signatureOrder_map ("int", ·) ("float", ·)]
    exact List.map_congr_left fun q _ => by cases q.value <;> rfl
  rw [samplers, scalars, ← List.append_assoc]
  rfl

end

namespace Processor

/-- Every launch of a kernel that was built from a fragment passes, position by position, what the unit declares
that was compiled for it: the prototype in a compute environment, and the uniforms of a shader. -/
theorem launch_fits_compiled_unit (a : Adapter σ) (memory : σ) (owner : Owner) (acts : List Action)
    (keeps : ∀ act ∈ acts, act.KeepsKernels) :
    let p := (watched a memory owner).play acts
    let events := (watched a memory owner).history acts
    ∀ (i : Nat) l answer, (p.event .run).calls[i]? = some (.dispatch l answer) →
      ∃ build k source, latest built events = some build ∧ build.before.graph.kernels[i]? = some k ∧
        build.calls[i]? = some (.compile k.name source (.ok l.program)) ∧ l.kernel = k.name ∧
        (k.Named → ¬ a.environment.isCompleteUnit k.source →
          (a.environment = .openCL ∨ a.environment = .cuda → ∃ q, Prototype.read source = some q ∧
            l.Fits build.before.graph p q ∧ ((∀ act ∈ acts, act.EditsInPlace) → l.Fits p.graph p q)) ∧
          (a.environment = .glsl → Fragment.uniforms source.toList =
            l.inputs.map (fun argument => ("sampler2D", argument.1)) ++
              l.parameters.map (fun q => (q.value.type.name, q.name)) ++ [("float", "dx")])) := by
  intro p events i l answer called
  have recorded : p.adapter = a.recorded := play_adapter (p := watched a memory owner) rfl acts
  have kept : Keeps a.environment events p := keeps_history a memory owner acts keeps
  obtain ⟨late, planned⟩ := planned_of_run recorded called
  obtain ⟨build, units, programs, made⟩ := builtFrom_history a memory owner acts late
  obtain ⟨k, source, program, known, assembled, compiled, launched⟩ := made.at_position planned
  obtain ⟨now, held, kernel, rfl, reads, writes, values⟩ := launch_compiledEntry launched
  obtain ⟨language, distinct, since⟩ := kept.since build made.last
  -- A run looks up the names of then in the kernel of now, which has them all under their types.
  obtain ⟨now', found, grown⟩ := since i k known
  obtain rfl : now' = now := Option.some.inj (found.symm.trans held)
  have name : l.kernel = k.name := kernel.trans grown.name
  have passed : PassedFor k.parameters.signatureOrder l.parameters := by
    obtain ⟨parameters, same, each⟩ :=
      kept.valued.resolves found (distinct k (List.mem_of_getElem? known)) grown
    obtain rfl : parameters = l.parameters := Except.ok.inj (same.symm.trans values)
    exact each.imp fun _ _ ⟨name, type, _⟩ => ⟨name, type⟩
  refine ⟨build, k, source, made.last, known, compiled, name, fun named fragment => ?_⟩
  rw [language] at assembled
  obtain ⟨s, signed, rfl⟩ := Kernel.assemble_fragment fragment assembled
  have interface : s.Named := named.signature signed
  constructor
  · intro compute
    -- A buffer that was replaced since may have other channels than the unit declares for it.
    have fits : l.Fits build.before.graph p s.prototype := fits_of_passed signed name reads writes passed
    exact ⟨_, Scaffold.read_wrap compute interface k.source, fits,
      fun inPlace => fits.grow (grows_since_build a memory owner acts inPlace build made.last)⟩
  · intro shader
    rw [shader, Scaffold.uniforms_wrap interface]
    exact uniforms_of_passed signed reads passed

/-- A device that refuses nothing and forgets everything, with a handle for each buffer. -/
def accepting (environment : Environment) : Adapter Unit where
  environment
  name := "accepting"
  allocate buffers m := (.ok (buffers.mapIdx fun i _ => ⟨⟨UInt32.ofNat i, 0⟩⟩), m)
  compile _ _ m := (.ok ⟨⟨0, 0⟩⟩, m)
  release _ m := m
  dispatch _ m := (.ok (), m)
  upload _ _ m := (.ok (), m)
  download _ host m := (.ok (), host, m)

def scaled : Kernel where
  name := "k"
  owner := ⟨0⟩
  source := "B[idx] = n;"
  inputs := [⟨"A", ⟨⟨0⟩, 0⟩⟩]
  outputs := [⟨"B", ⟨⟨0⟩, 1⟩⟩]
  parameters := ⟨[⟨"gain", .float .zero⟩, ⟨"n", .int 1⟩]⟩

def scales : List Action :=
  [.setDimensions 1 1, .createBuffer "a" 4, .createBuffer "b" 1, .createKernel "k",
    .editKernel ⟨⟨0⟩, 0⟩ (.bindInput "A" ⟨⟨0⟩, 0⟩), .editKernel ⟨⟨0⟩, 0⟩ (.bindOutput "B" ⟨⟨0⟩, 1⟩),
    .editKernel ⟨⟨0⟩, 0⟩ (.setParameter ⟨"gain", .float .zero⟩),
    .editKernel ⟨⟨0⟩, 0⟩ (.setParameter ⟨"n", .int 1⟩), .editKernel ⟨⟨0⟩, 0⟩ (.setSource "B[idx] = n;"),
    .allocate, .build, .editKernel ⟨⟨0⟩, 0⟩ (.setParameter ⟨"n", .int 2⟩)]

deriving instance DecidableEq for DeviceCall

theorem launch_fits_compiled_unit_scaled :
    let p := (watched (accepting .openCL) () ⟨0⟩).play scales
    let l : Launch := ⟨"k", ⟨⟨0, 0⟩⟩, [("A", ⟨⟨0, 0⟩⟩)], [("B", ⟨⟨1, 0⟩⟩)],
      [⟨"n", .int 2⟩, ⟨"gain", .float .zero⟩], 1, 1⟩
    (∀ act ∈ scales, act.KeepsKernels) ∧ (∀ act ∈ scales, act.EditsInPlace) ∧
      (p.event .run).calls[0]? = some (.dispatch l (.ok ())) ∧ scaled.Named ∧
      ¬ Environment.openCL.isCompleteUnit scaled.source ∧
      ∃ source q, Prototype.read source = some q ∧ l.Fits p.graph p q := by
  intro p l
  have keeps : ∀ act ∈ scales, act.KeepsKernels := by decide +kernel
  have inPlace : ∀ act ∈ scales, act.EditsInPlace := by decide +kernel
  have called : (p.event .run).calls[0]? = some (.dispatch l (.ok ())) := by decide +kernel
  have declared : (latest built ((watched (accepting .openCL) () ⟨0⟩).history scales)).map
      (·.before.graph.kernels) = some [scaled] := by decide +kernel
  have named : scaled.Named := ⟨by decide +kernel, by decide +kernel, by decide +kernel⟩
  have fragment : ¬ Environment.openCL.isCompleteUnit scaled.source := by decide +kernel
  obtain ⟨build, k, source, last, known, -, -, fits⟩ :=
    launch_fits_compiled_unit (accepting .openCL) () ⟨0⟩ scales keeps 0 l (.ok ()) called
  rw [last, Option.map_some, Option.some.injEq] at declared
  rw [declared] at known
  cases known
  obtain ⟨q, read, -, now⟩ := (fits named fragment).1 (.inl rfl)
  exact ⟨keeps, inPlace, called, named, fragment, source, q, read, now inPlace⟩

end Processor

end PixelPipeline
