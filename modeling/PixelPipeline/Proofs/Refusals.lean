import PixelPipeline.Device.HostMemory
import PixelPipeline.Pipeline.Text
import PixelPipeline.Proofs.Declaration

namespace PixelPipeline

open Outcome

/-- The value of a parameter is that of the one field that has any. -/
def ParameterDeclaration.Gives (d : ParameterDeclaration) (p : Parameter) : Prop :=
  (∃ n, d.int = some n ∧ d.float = none ∧ p = ⟨d.name, .int n⟩) ∨
    ∃ x, d.int = none ∧ d.float = some x ∧ p = ⟨d.name, .float x⟩

theorem ParameterDeclaration.parameter_eq_ok {d : ParameterDeclaration} {p : Parameter} :
    d.parameter = .ok p ↔ d.Gives p := by
  rcases d with ⟨name, int, float⟩
  cases int <;> cases float <;> simp [parameter, Gives, eq_comm]

theorem KernelDeclaration.gives_parameters {k : KernelDeclaration} (decided : ∀ d ∈ k.params, d.Decided) :
    List.Forall₂ ParameterDeclaration.Gives k.params k.parameters := by
  unfold parameters
  generalize k.params = ds at decided
  induction ds with
  | nil => exact .nil
  | cons d ds ih =>
    rcases List.forall_mem_cons.mp decided with ⟨first, rest⟩
    obtain ⟨p, given⟩ := ParameterDeclaration.exists_parameter.mpr first
    have listed : (d :: ds).filterMap (·.parameter.toOption) = p :: ds.filterMap (·.parameter.toOption) :=
      List.filterMap_cons_some (toOption_eq_some.mpr given)
    rw [listed]
    exact .cons (ParameterDeclaration.parameter_eq_ok.mp given) (ih rest)

theorem ParameterDeclaration.parameter_sober {d : ParameterDeclaration} {cause : Cause}
    (failed : d.parameter = .error cause) : cause ≠ .overflow := by
  unfold parameter at failed
  split at failed <;> cases failed
  simp

theorem BufferDeclaration.check_eq_ok {b : BufferDeclaration} :
    b.check = .ok () ↔ b.input = none ∨ b.fill = none := by
  rcases b with ⟨name, channels, input, fill, output⟩
  cases input <;> cases fill <;> simp [check]

theorem KernelDeclaration.check_eq_ok {k : KernelDeclaration} :
    k.check = .ok () ↔ ∀ d ∈ k.params, d.Decided := by
  rw [check, forM_eq_ok]
  refine forall₂_congr fun d _ => ?_
  rw [← ParameterDeclaration.exists_parameter, map_eq_ok]
  exact exists_congr fun p => and_iff_left rfl

theorem Pipeline.parse_eq_ok {format : Format} {text : String} {p : Pipeline} : parse format text = .ok p ↔
    format text = .ok p ∧ (∀ b ∈ p.buffers, b.input = none ∨ b.fill = none) ∧
      ∀ k ∈ p.kernels, ∀ d ∈ k.params, d.Decided := by
  have checked : p.check = .ok () ↔ (∀ b ∈ p.buffers, b.input = none ∨ b.fill = none) ∧
      ∀ k ∈ p.kernels, ∀ d ∈ k.params, d.Decided := by
    have unit {first second : Except Cause Unit} :
        (first >>= fun _ => second) = .ok () ↔ first = .ok () ∧ second = .ok () :=
      bind_eq_ok.trans ⟨fun ⟨_, done⟩ => done, fun done => ⟨(), done⟩⟩
    simp only [check, unit, forM_eq_ok, BufferDeclaration.check_eq_ok, KernelDeclaration.check_eq_ok]
  rw [← checked, parse]
  cases format text with
  | error fault => simp
  | ok q =>
    simp only [map_eq_ok, Except.ok.injEq]
    constructor
    · rintro ⟨_, accepted, rfl⟩
      exact ⟨rfl, accepted⟩
    · rintro ⟨rfl, accepted⟩
      exact ⟨(), accepted, rfl⟩

section

variable {g : Graph} {k : Kernel} {name : String}

theorem Kernel.checkBinding_ne_overflow {buffer : BufferId} : k.checkBinding name buffer ≠ .error .overflow := by
  unfold checkBinding
  split_ifs <;> simp

theorem Kernel.bindInput_ne_overflow {buffer : BufferId} : k.bindInput name buffer ≠ .error .overflow :=
  bind_ne_error checkBinding_ne_overflow fun _ => pure_ne_error

theorem Kernel.bindOutput_ne_overflow {buffer : BufferId} : k.bindOutput name buffer ≠ .error .overflow :=
  bind_ne_error checkBinding_ne_overflow fun _ => pure_ne_error

theorem ParameterSet.set_ne_overflow {s : ParameterSet} {p : Parameter} : s.set p ≠ .error .overflow := by
  unfold set
  split
  · simp
  · split_ifs <;> simp

theorem Kernel.setParameter_ne_overflow {p : Parameter} : k.setParameter p ≠ .error .overflow := by
  unfold setParameter
  split
  · simp [throw, throwThe, MonadExceptOf.throw, bind, Except.bind]
  · exact bind_ne_error ParameterSet.set_ne_overflow fun _ => pure_ne_error

theorem Graph.kernel_ne_overflow {id : KernelId} : g.kernel id ≠ .error .overflow := by
  unfold Graph.kernel
  split
  · split <;> simp
  · simp

theorem Graph.modifyKernel_ne_overflow {id : KernelId} {edit : Kernel → Except Error Kernel}
    (sober : ∀ k, edit k ≠ .error .overflow) : g.modifyKernel id edit ≠ .error .overflow :=
  bind_ne_error kernel_ne_overflow fun k => bind_ne_error (sober k) fun _ => pure_ne_error

theorem Graph.createKernel_ne_overflow : g.createKernel name ≠ .error .overflow := by
  unfold createKernel
  split_ifs <;> simp

theorem Graph.setDimensions_ne_overflow {width height : UInt32} :
    g.setDimensions width height ≠ .error .overflow := by
  unfold setDimensions Registry.setDimensions
  split_ifs <;> simp [throw, throwThe, MonadExceptOf.throw, bind, Except.bind, pure, Except.pure]

end

namespace Declaring

variable {α β : Type} {x : Declaring α} {f : α → Declaring β} {g : Graph} {e : Failure}

theorem fails_bind : ((x >>= f) g).1 = .error e ↔
    (x g).1 = .error e ∨ ∃ a h, Makes x g a h ∧ (f a h).1 = .error e := by
  rw [run_bind]
  unfold Makes
  rcases x g with ⟨r | a, h⟩
  · constructor
    · intro failed
      cases failed
      exact .inl rfl
    · rintro (failed | ⟨_, _, made, -⟩)
      · cases failed
        rfl
      · cases made
  · constructor
    · exact fun failed => .inr ⟨a, h, rfl, failed⟩
    · rintro (failed | ⟨_, _, made, failed⟩)
      · cases failed
      · cases made
        exact failed

theorem fails_step {change : Graph → Except Error (α × Graph)} :
    (step change g).1 = .error e ↔ ∃ r, change g = .error r ∧ e = .ofError r := by
  unfold step
  rcases change g with r | ⟨a, h⟩ <;> simp [eq_comm]

theorem fails_mapM {act : α → Declaring β} {xs : List α} : ((xs.mapM act) g).1 = .error e ↔
    ∃ first x rest made h, xs = first ++ x :: rest ∧ Makes (first.mapM act) g made h ∧ (act x h).1 = .error e := by
  induction xs generalizing g with
  | nil =>
    constructor
    · intro failed
      cases failed
    · rintro ⟨first, x, rest, -, -, none, -⟩
      exact absurd none (by simp)
  | cons x xs ih =>
    have last (b : β) (h : Graph) : ((xs.mapM act >>= fun bs => pure (b :: bs)) h).1 = .error e ↔
        ((xs.mapM act) h).1 = .error e := by
      rw [fails_bind, or_iff_left]
      rintro ⟨_, _, -, impossible⟩
      cases impossible
    rw [List.mapM_cons, fails_bind]
    simp only [last, ih]
    constructor
    · rintro (now | ⟨b, between, made, first, y, rest, bs, h, rfl, before, later⟩)
      · exact ⟨[], x, xs, [], g, rfl, makes_pure.mpr ⟨rfl, rfl⟩, now⟩
      · refine ⟨x :: first, y, rest, b :: bs, h, rfl, ?_, later⟩
        rw [List.mapM_cons]
        exact makes_bind.mpr ⟨b, between, made, makes_bind.mpr ⟨bs, h, before, makes_pure.mpr ⟨rfl, rfl⟩⟩⟩
    · rintro ⟨first, y, rest, made, h, split, before, failed⟩
      cases first with
      | nil =>
        cases split
        cases before
        exact .inl failed
      | cons z first =>
        cases split
        rw [List.mapM_cons] at before
        obtain ⟨b, between, now, later⟩ := makes_bind.mp before
        obtain ⟨bs, _, before, last⟩ := makes_bind.mp later
        cases last
        exact .inr ⟨b, between, now, first, y, rest, bs, h, rfl, before, failed⟩

def FailsWith (kind : Failure → Prop) (x : Declaring α) : Prop := ∀ g e, (x g).1 = .error e → kind e

variable {kind : Failure → Prop}

theorem FailsWith.pure {a : α} : FailsWith kind (pure a : Declaring α) := by
  intro g e failed
  cases failed

theorem FailsWith.throw (known : kind e) : FailsWith kind (throw e : Declaring α) := by
  intro g r failed
  cases failed
  exact known

theorem FailsWith.bind (first : FailsWith kind x) (later : ∀ a, FailsWith kind (f a)) :
    FailsWith kind (x >>= f) := by
  intro g e failed
  rcases fails_bind.mp failed with failed | ⟨a, h, -, failed⟩
  · exact first g e failed
  · exact later a h e failed

theorem FailsWith.step {change : Graph → Except Error (α × Graph)}
    (all : ∀ g r, change g = .error r → kind (.ofError r)) : FailsWith kind (step change) := by
  intro g e failed
  obtain ⟨r, refused, rfl⟩ := fails_step.mp failed
  exact all g r refused

theorem FailsWith.onKernel {id : KernelId} {edit : Kernel → Except Error Kernel}
    (all : ∀ r, r ≠ .overflow → kind (.ofError r)) (sober : ∀ k, edit k ≠ .error .overflow) :
    FailsWith kind (onKernel id edit) := by
  refine .step fun g r failed => all r fun same => ?_
  subst same
  exact Graph.modifyKernel_ne_overflow sober (map_eq_error.mp failed)

theorem FailsWith.mapM {act : α → Declaring β} {xs : List α} (each : ∀ x ∈ xs, FailsWith kind (act x)) :
    FailsWith kind (xs.mapM act) := by
  intro g e failed
  obtain ⟨first, x, rest, -, h, rfl, -, failed⟩ := fails_mapM.mp failed
  exact each x (by simp) h e failed

theorem FailsWith.forM {act : α → Declaring Unit} {xs : List α} (each : ∀ x ∈ xs, FailsWith kind (act x)) :
    FailsWith kind (xs.forM act) := by
  induction xs with
  | nil => exact .pure
  | cons x xs ih =>
    rcases List.forall_mem_cons.mp each with ⟨first, rest⟩
    exact .bind first fun _ => ih rest

end Declaring

/-- The buffers before one of them are accepted, and there is no room for that one. -/
def Pipeline.Overflows (p : Pipeline) : Prop :=
  (1 ≤ p.width.toNat ∧ p.width.toNat ≤ 2147483647) ∧ (1 ≤ p.height.toNat ∧ p.height.toNat ≤ 2147483647) ∧
    ∃ first b rest, p.buffers = first ++ b :: rest ∧
      (∀ c ∈ first ++ [b], 1 ≤ c.channels.toNat ∧ c.channels.toNat ≤ 4) ∧
      ((first ++ [b]).map (·.name)).Nodup ∧ (∀ c ∈ first, p.Fits c) ∧ ¬ p.Fits b

theorem Pipeline.not_declarable_of_overflows {p : Pipeline} (large : p.Overflows) : ¬ p.Declarable := by
  obtain ⟨-, -, first, b, rest, split, -, -, -, unfit⟩ := large
  exact fun declarable => unfit (declarable.room b (by simp [split]))

theorem Failure.ofError_eq_overflow {r : Error} : Failure.ofError r = .ofCause .overflow ↔ r = .overflow := by
  cases r <;> simp [ofError, ofCause]

theorem Declaring.overflows_step {α : Type} {change : Graph → Except Error (α × Graph)} {g : Graph} :
    (step change g).1 = .error (.ofCause .overflow) ↔ change g = .error .overflow := by
  rw [fails_step]
  constructor
  · rintro ⟨r, refused, same⟩
    rwa [Failure.ofError_eq_overflow.mp same.symm] at refused
  · exact fun refused => ⟨.overflow, refused, rfl⟩

namespace PipelineFile

open Declaring

variable {f : PipelineFile} {source : Option SourceText} {owner : Owner} {kind : Failure → Prop}

theorem declareKernel_failsWith {ids : List BufferId} {k : KernelDeclaration}
    (refused : ∀ r, r ≠ .overflow → kind (.ofError r)) (unknown : ∀ name, kind (.ofCause (.unknownBuffer name)))
    (unread : FailsWith kind (f.sourceOf source k)) (undecided : ∀ d ∈ k.params, ∀ cause,
      d.parameter = .error cause → kind (.ofCause cause)) :
    FailsWith kind (f.declareKernel ids source k) := by
  have named (name : String) : FailsWith kind (f.bufferNamed ids name) := by
    unfold bufferNamed
    split
    · exact .pure
    · exact .throw (unknown name)
  have set (id : KernelId) : ∀ d ∈ k.params, FailsWith kind (setParameter id d) := by
    intro d member
    unfold setParameter
    split
    · exact .onKernel refused fun _ => Kernel.setParameter_ne_overflow
    · exact .throw (undecided d member _ ‹_›)
  have created : FailsWith kind (Declaring.step (·.createKernel k.name)) := by
    refine .step fun g r failed => refused r fun same => ?_
    exact Graph.createKernel_ne_overflow (same ▸ failed)
  refine .bind created fun id => .bind unread fun text => ?_
  refine .bind (.forM fun _ _ => .bind (named _) fun _ => .onKernel refused fun _ =>
    Kernel.bindInput_ne_overflow) fun _ => ?_
  refine .bind (.forM fun _ _ => .bind (named _) fun _ => .onKernel refused fun _ =>
    Kernel.bindOutput_ne_overflow) fun _ => ?_
  refine .bind (.forM (set id)) fun _ => ?_
  cases text with
  | none => exact .pure
  | some text => exact .bind (.onKernel refused fun _ => by simp) fun _ => .pure

def Refusal (e : Failure) : Prop := (∃ r, e = .ofError r) ∨ ∃ name, e = .ofCause (.unknownBuffer name)

theorem declare_failsWith (decided : ∀ k ∈ f.pipeline.kernels, ∀ d ∈ k.params, d.Decided) :
    FailsWith Refusal (f.declare none) := by
  have refused (r : Error) : Refusal (.ofError r) := .inl ⟨r, rfl⟩
  have kernel (ids : List BufferId) : ∀ k ∈ f.pipeline.kernels, FailsWith Refusal (f.declareKernel ids none k) := by
    intro k member
    refine declareKernel_failsWith (fun r _ => refused r) (fun name => .inr ⟨name, rfl⟩) .pure ?_
    intro d listed cause failed
    obtain ⟨p, given⟩ := ParameterDeclaration.exists_parameter.mpr (decided k member d listed)
    cases given.symm.trans failed
  refine .bind (.step fun _ r _ => refused r) fun _ => ?_
  exact .bind (.mapM fun _ _ => .step fun _ r _ => refused r) fun _ => .bind (.mapM (kernel _)) fun _ => .pure

theorem declareKernel_sober {ids : List BufferId} {k : KernelDeclaration} :
    FailsWith (·.cause ≠ .overflow) (f.declareKernel ids source k) := by
  have unread : FailsWith (·.cause ≠ .overflow) (f.sourceOf source k) := by
    unfold sourceOf
    split
    · split
      · exact .pure
      · exact .throw (by simp [Failure.during])
    · exact .pure
  refine declareKernel_failsWith (fun r other => ?_) (fun name => by simp [Failure.ofCause]) unread ?_
  · cases r <;> simp [Failure.ofError] at other ⊢
  · exact fun d _ cause failed => ParameterDeclaration.parameter_sober failed

theorem overflows_iff_createBuffer {g : Graph}
    (wide : 1 ≤ f.pipeline.width.toNat ∧ f.pipeline.width.toNat ≤ 2147483647)
    (high : 1 ≤ f.pipeline.height.toNat ∧ f.pipeline.height.toNat ≤ 2147483647)
    {first : List BufferDeclaration} {b : BufferDeclaration} (held : g.registry =
      ⟨owner, f.pipeline.width, f.pipeline.height, first.map (·.buffer f.pipeline.width f.pipeline.height)⟩) :
    g.createBuffer b.name b.channels = .error .overflow ↔
      (1 ≤ b.channels.toNat ∧ b.channels.toNat ≤ 4) ∧ b.name ∉ first.map (·.name) ∧ ¬ f.pipeline.Fits b := by
  have set : f.pipeline.width ≠ 0 ∧ f.pipeline.height ≠ 0 := by
    simp only [ne_eq, ← UInt32.toNat_inj, UInt32.toNat_zero]
    omega
  have named : (first.map (·.buffer f.pipeline.width f.pipeline.height)).map (·.name) = first.map (·.name) := by
    simp [BufferDeclaration.buffer, Function.comp_def]
  rw [Graph.createBuffer_eq_overflow, Registry.HasRoom, held, named, and_iff_right set]
  refine and_congr_right fun range => ?_
  rw [elementCount_toNat wide.2 high.2 range.2]
  rfl

theorem declareContents_overflows {g : Graph}
    (wide : 1 ≤ f.pipeline.width.toNat ∧ f.pipeline.width.toNat ≤ 2147483647)
    (high : 1 ≤ f.pipeline.height.toNat ∧ f.pipeline.height.toNat ≤ 2147483647)
    (unused : g.registry = ⟨owner, f.pipeline.width, f.pipeline.height, []⟩) :
    (f.declareContents source g).1 = .error (.ofCause .overflow) ↔
      ∃ first b rest, f.pipeline.buffers = first ++ b :: rest ∧
        (∀ c ∈ first ++ [b], 1 ≤ c.channels.toNat ∧ c.channels.toNat ≤ 4) ∧
        ((first ++ [b]).map (·.name)).Nodup ∧ (∀ c ∈ first, f.pipeline.Fits c) ∧ ¬ f.pipeline.Fits b := by
  have later (ids : List BufferId) : FailsWith (·.cause ≠ .overflow)
      (f.pipeline.kernels.mapM (f.declareKernel ids source) >>= fun kernels => pure (⟨ids, kernels⟩ : Declared)) :=
    .bind (.mapM fun _ _ => declareKernel_sober) fun _ => .pure
  rw [declareContents, fails_bind, or_iff_left, fails_mapM]
  swap
  · rintro ⟨ids, h, -, failed⟩
    exact later ids h _ failed rfl
  refine exists_congr fun first => exists_congr fun b => exists_congr fun rest => ?_
  have distinct : ((first ++ [b]).map (·.name)).Nodup ↔
      (first.map (·.name)).Nodup ∧ b.name ∉ first.map (·.name) := by
    rw [List.map_append, List.map_singleton, ← List.concat_eq_append, List.nodup_concat, and_comm]
  simp only [overflows_step, makes_buffers wide high unused, distinct, List.forall_mem_append,
    List.forall_mem_singleton]
  constructor
  · rintro ⟨_, h, split, ⟨⟨proper, apart⟩, -, rfl⟩, failed⟩
    obtain ⟨range, new, large⟩ := (overflows_iff_createBuffer wide high rfl).mp failed
    rcases forall₂_and.mp proper with ⟨channels, room⟩
    exact ⟨split, ⟨channels, range⟩, ⟨apart, new⟩, room, large⟩
  · rintro ⟨split, ⟨channels, range⟩, ⟨apart, new⟩, room, large⟩
    exact ⟨_, _, split, ⟨⟨forall₂_and.mpr ⟨channels, room⟩, apart⟩, rfl, rfl⟩,
      (overflows_iff_createBuffer wide high rfl).mpr ⟨range, new, large⟩⟩

theorem declare_overflows {environment : Environment} :
    (f.declare source (.empty environment owner)).1 = .error (.ofCause .overflow) ↔ f.pipeline.Overflows := by
  have sober : ¬ ((Declaring.step fun g => (g.setDimensions f.pipeline.width f.pipeline.height).map ((), ·))
      (.empty environment owner)).1 = .error (.ofCause .overflow) := by
    rw [overflows_step, map_eq_error]
    exact Graph.setDimensions_ne_overflow
  rw [declare, fails_bind, or_iff_right sober]
  simp only [makes_step, map_eq_ok, Graph.setDimensions_eq_ok]
  constructor
  · rintro ⟨_, _, ⟨_, ⟨wide, high, -, rfl⟩, same⟩, failed⟩
    cases same
    exact ⟨wide, high, (declareContents_overflows wide high rfl).mp failed⟩
  · rintro ⟨wide, high, large⟩
    exact ⟨(), _, ⟨_, ⟨wide, high, rfl, rfl⟩, rfl⟩, (declareContents_overflows wide high rfl).mpr large⟩

theorem declare_panics {environment : Environment} :
    (∃ e, (f.declare source (.empty environment owner)).1 = .error e ∧ e.cause = .overflow) ↔
      f.pipeline.Overflows := by
  have refused (r : Error) (panic : (Failure.ofError r).cause = .overflow) :
      Failure.ofError r = .ofCause .overflow := by
    cases r <;> cases panic
    rfl
  have single : FailsWith (fun e => e.cause = .overflow → e = .ofCause .overflow) (f.declare source) := by
    refine .bind (.step fun _ r _ => refused r) fun _ =>
      .bind (.mapM fun _ _ => .step fun _ r _ => refused r) fun _ => ?_
    exact .bind (.mapM fun _ _ _ _ failed panic => absurd panic (declareKernel_sober _ _ failed)) fun _ => .pure
  have overflows : (f.declare source (.empty environment owner)).1 = .error (.ofCause .overflow) ↔
      f.pipeline.Overflows := declare_overflows
  rw [← overflows]
  constructor
  · rintro ⟨e, failed, panic⟩
    rw [failed, single _ e failed panic]
  · intro failed
    exact ⟨_, failed, rfl⟩

/-- A parsed pipeline gives each parameter exactly one value. It is declared without sources iff it is well formed
and its buffers fit into memory, and its handles and graph come of that; the program panics iff the first buffer
that is refused is one without room. A new processor does what the graph does. -/
theorem declares_exactly_wellFormed {σ : Type} {format : Pipeline.Format} {text : String} (f : PipelineFile)
    (parsed : Pipeline.parse format text = .ok f.pipeline) (adapter : Adapter σ) (memory : σ)
    (environment : Environment) (owner : Owner) :
    let outcome (environment : Environment) := f.declare none (.empty environment owner)
    (∀ k ∈ f.pipeline.kernels, List.Forall₂ ParameterDeclaration.Gives k.params k.parameters) ∧
    ((∃ d, (outcome environment).1 = .ok d) ↔
      f.pipeline.WellFormed ∧ ∀ b ∈ f.pipeline.buffers, f.pipeline.Fits b) ∧
    (∀ d, (outcome environment).1 = .ok d →
      d = f.pipeline.handles owner ∧ (outcome environment).2 = f.pipeline.graph environment owner) ∧
    ((outcome environment).1 = .error (.ofCause .overflow) ↔ f.pipeline.Overflows) ∧
    (∀ e, (outcome environment).1 = .error e → Refusal e) ∧
    Processor.declare f none (.create adapter memory owner) =
      ((outcome adapter.environment).1,
        { Processor.create adapter memory owner with graph := (outcome adapter.environment).2 }) := by
  intro outcome
  have decided := (Pipeline.parse_eq_ok.mp parsed).2.2
  have declared_of_ok (d : Declared) (succeeded : (outcome environment).1 = .ok d) :
      f.pipeline.Declarable ∧ d = f.pipeline.handles owner ∧
        (outcome environment).2 = f.pipeline.graph environment owner :=
    makes_declare.mp (Prod.ext succeeded rfl)
  refine ⟨fun k member => KernelDeclaration.gives_parameters (decided k member), ⟨?_, ?_⟩, ?_, declare_overflows,
    fun e failed => declare_failsWith decided _ e failed, f.declare_on_processor adapter memory owner⟩
  · rintro ⟨d, succeeded⟩
    have accepted := (declared_of_ok d succeeded).1
    exact ⟨accepted.valid, accepted.room⟩
  · rintro ⟨valid, room⟩
    have made : Makes (f.declare none) (.empty environment owner) (f.pipeline.handles owner)
        (f.pipeline.graph environment owner) := makes_declare.mpr ⟨⟨valid, decided, room⟩, rfl, rfl⟩
    exact ⟨_, congrArg Prod.fst made⟩
  · intro d succeeded
    exact (declared_of_ok d succeeded).2

def scaled : Pipeline where
  environment := none
  width := 2
  height := 1
  buffers := [⟨"b", 1, none, none, none⟩]
  kernels := [⟨"k", none, [], [⟨"B", "b"⟩], [⟨"n", some 1, none⟩, ⟨"x", none, some .zero⟩, ⟨"n", some 5, none⟩]⟩]

def scaledText : String :=
  "width: 2\nheight: 1\nbuffers:\n- name: b\nkernels:\n- name: k\n  outputs:\n  - binding: B\n    buffer: b\n" ++
    "  params:\n  - name: n\n    int: 1\n  - name: x\n    float: 0\n  - name: n\n    int: 5\n"

theorem declares_exactly_wellFormed_scaled : Pipeline.parse Pipeline.yaml scaledText = .ok scaled ∧
    let outcome := (PipelineFile.mk scaled ⟨""⟩).declare none (.empty .openCL ⟨0⟩)
    outcome.1 = .ok ⟨[⟨⟨0⟩, 0⟩], [⟨⟨0⟩, 0⟩]⟩ ∧
      outcome.2.kernels.map (·.parameters.entries) = [[⟨"n", .int 5⟩, ⟨"x", .float .zero⟩]] := by
  have parsed : Pipeline.parse Pipeline.yaml scaledText = .ok scaled := by decide +kernel
  have valid : scaled.WellFormed := by
    refine ⟨by decide, by decide, by decide, by decide, by decide, ?_⟩
    exact List.forall_mem_singleton.mpr ⟨by decide, by decide, by decide, by unfold OneType; decide⟩
  have room : ∀ b ∈ scaled.buffers, scaled.Fits b := by
    unfold Pipeline.Fits
    decide
  obtain ⟨-, accepted, declared, -⟩ := declares_exactly_wellFormed ⟨scaled, ⟨""⟩⟩ parsed
    (HostMemory.adapter .openCL) {} .openCL ⟨0⟩
  obtain ⟨d, succeeded⟩ := accepted.mpr ⟨valid, room⟩
  obtain ⟨handles, drawn⟩ := declared d succeeded
  have held := congrArg (fun g : Graph => g.kernels.map (·.parameters.entries)) drawn
  exact ⟨parsed, succeeded.trans (congrArg Except.ok handles), held.trans (by decide +kernel)⟩

theorem wellFormed_panics :
    let p : Pipeline := ⟨none, 2147483647, 2147483647, [⟨"b", 1, none, none, none⟩], []⟩
    Pipeline.parse Pipeline.yaml "width: 2147483647\nheight: 2147483647\nbuffers:\n- name: b\n" = .ok p ∧
      p.WellFormed ∧
      ((PipelineFile.mk p ⟨""⟩).declare none (.empty .openCL ⟨0⟩)).1 = .error (.ofCause .overflow) := by
  refine ⟨by decide +kernel, ?_, by decide +kernel⟩
  exact ⟨by decide, by decide, by decide, by decide, by decide, by simp⟩

end PipelineFile

end PixelPipeline
