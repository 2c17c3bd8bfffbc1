import Mathlib.Data.List.Find
import PixelPipeline.Proofs.Computation
import PixelPipeline.Proofs.RoundTrip

namespace PixelPipeline

open Outcome

variable {σ : Type}

/-- A download that succeeds gives what the device holds, and the device goes on to hold it. -/
structure Adapter.Returns (a : Adapter σ) (held : σ → DeviceBuffer → Option (Array Single)) : Prop where
  data : ∀ {n : Nat} {d : DeviceBuffer} {host data : Vector Single n} {memory after : σ},
    a.download d host memory = (.ok (), data, after) → held memory d = some data.toArray
  keeps : ∀ {n : Nat} {d : DeviceBuffer} {host data : Vector Single n} {memory after : σ},
    a.download d host memory = (.ok (), data, after) → held after = held memory

namespace Processor

def deviceContents (held : σ → DeviceBuffer → Option (Array Single)) (p : Processor σ) (i : Nat) :
    Option (Array Single) :=
  p.storage[i]?.bind (held p.memory)

theorem download_eq_ok {p q : Processor σ} {id : BufferId} (downloaded : p.download id = (.ok (), q)) :
    ∃ d b data memory, p.storage[id.index]? = some d ∧ p.graph.buffer id = .ok b ∧
      p.adapter.download d b.data.toVector p.memory = (.ok (), data, memory) ∧
      q = { p with
        memory
        graph := { p.graph with registry := { p.graph.registry with
          buffers := p.graph.registry.buffers.set id.index { b with data := data.toArray } } } } := by
  unfold download at downloaded
  split at downloaded
  · cases downloaded
  · rename_i d b ready
    obtain ⟨stored, held⟩ := ready_eq_ok.mp ready
    obtain ⟨-, -, found⟩ := stored_of_requireStorage stored
    cases answered : p.adapter.download d b.data.toVector p.memory with
    | mk result rest =>
      rw [answered] at downloaded
      cases downloaded
      exact ⟨d, b, rest.1, rest.2, found, held, answered, rfl⟩

end Processor

namespace PipelineFile

variable (f : PipelineFile) (contents : Nat → Option (Array Single))

/-- The file that is written for a buffer. -/
def outgoing? (b : BufferDeclaration × Nat) : Option (Path × ByteArray) :=
  b.1.output.bind fun path => (contents b.2).map fun data => (f.resolve path, RawFloats.encode data)

def Supplied (bs : List (BufferDeclaration × Nat)) : Prop :=
  ∀ b ∈ bs, b.1.output.isSome → ∃ data, contents b.2 = some data ∧ data.size = f.elements b.1

end PipelineFile

namespace Run

variable {a : Adapter σ} {held : σ → DeviceBuffer → Option (Array Single)} {f : PipelineFile}
  {environment : Environment} {contents : Nat → Option (Array Single)} {p q : Processor σ} {time : String}
  {verbose : Bool} {c c' : Console} {b : BufferDeclaration × Nat}

structure Delivering (a : Adapter σ) (held : σ → DeviceBuffer → Option (Array Single)) (f : PipelineFile)
    (environment : Environment) (contents : Nat → Option (Array Single)) (p : Processor σ) : Prop where
  adapter : p.adapter = a
  registry : p.graph.registry.blank = (f.pipeline.graph environment ⟨0⟩).registry.blank
  contents : p.deviceContents held = contents

theorem written_of_save {path : Path} {data : Array Single}
    (saved : RawFloats.save (Console.shell time).files path data c = (.ok (), c')) :
    c.tree.write path (RawFloats.encode data) = .ok c'.tree := by
  cases wrote : (Console.shell time).files.write path (RawFloats.encode data) c with
  | mk answer after =>
    have step : RawFloats.save (Console.shell time).files path data c = _ := next_of_ran wrote
    rw [step] at saved
    cases answer with
    | error e => cases saved
    | ok _ =>
      cases saved
      obtain ⟨u, written, rfl⟩ := Console.write_eq_ok.mp wrote
      exact written

theorem fetched (returns : a.Returns held) (listed : b ∈ f.pipeline.buffers.zipIdx)
    (ready : Delivering a held f environment contents p) (downloaded : p.download ⟨⟨0⟩, b.2⟩ = (.ok (), q)) :
    Delivering a held f environment contents q ∧ ∃ now, q.graph.buffer ⟨⟨0⟩, b.2⟩ = .ok now ∧
      contents b.2 = some now.data ∧ now.data.size = f.elements b.1 := by
  have alike := p.download_alike ⟨⟨0⟩, b.2⟩
  rw [downloaded] at alike
  have registry : q.graph.registry.blank = (f.pipeline.graph environment ⟨0⟩).registry.blank :=
    (congrArg Graph.registry alike.graph).trans ready.registry
  obtain ⟨d, before, data, memory, stored, known, answered, rfl⟩ := Processor.download_eq_ok downloaded
  rw [ready.adapter] at answered
  have same : held memory = held p.memory := returns.keeps answered
  have here : contents b.2 = some data.toArray := by
    rw [← ready.contents, Processor.deviceContents, stored]
    exact returns.data answered
  obtain ⟨own, found⟩ := Registry.get_eq_ok.mp known
  have early := (List.getElem?_eq_some_iff.mp found).1
  have now : Registry.get { p.graph.registry with
      buffers := p.graph.registry.buffers.set b.2 { before with data := data.toArray } } ⟨⟨0⟩, b.2⟩ =
        .ok { before with data := data.toArray } :=
    Registry.get_eq_ok.mpr ⟨own, List.getElem?_set_self early⟩
  obtain ⟨again, held', size⟩ := buffer_of_blank registry listed
  cases now.symm.trans held'
  refine ⟨⟨ready.adapter, registry, ?_⟩, _, now, here, size⟩
  rw [← ready.contents]
  funext i
  rw [Processor.deviceContents, Processor.deviceContents, same]

theorem delivered_one (returns : a.Returns held) (listed : b ∈ f.pipeline.buffers.zipIdx)
    (ready : Delivering a held f environment contents p)
    (ran : deliver (Console.shell time) verbose f b.1 ⟨⟨0⟩, b.2⟩ p c = ((.ok (), q), c')) :
    Delivering a held f environment contents q ∧ f.Supplied contents [b] ∧
      FileTree.Writes (f.outgoing? contents b).toList c.tree c'.tree := by
  unfold deliver at ran
  cases output : b.1.output with
  | none =>
    rw [output] at ran
    cases ran
    refine ⟨ready, ?_, ?_⟩
    · exact List.forall_mem_singleton.mpr (by simp [output])
    · rw [PipelineFile.outgoing?, output]
      exact .nil _
  | some path =>
    simp only [output] at ran
    obtain ⟨_, p₁, downloaded, ran⟩ := ran_perform ran
    obtain ⟨after, now, known, here, size⟩ := fetched returns listed ready downloaded
    obtain ⟨again, p₂, read, ran⟩ := ran_perform ran
    obtain ⟨same, rfl⟩ := Prod.mk.inj read
    cases known.symm.trans same
    obtain ⟨_, c₁, saved, ran⟩ := ran_outside ran
    have written := written_of_save saved
    have last : q = p₁ ∧ c'.tree = c₁.tree := by
      cases verbose with
      | false =>
        cases ran
        exact ⟨rfl, rfl⟩
      | true =>
        cases ran
        exact ⟨rfl, rfl⟩
    obtain ⟨rfl, tree⟩ := last
    refine ⟨after, ?_, ?_⟩
    · exact List.forall_mem_singleton.mpr fun _ => ⟨now.data, here, size⟩
    · rw [PipelineFile.outgoing?, output, Option.bind_some, here, tree]
      exact .cons written (.nil _)

theorem delivered_all (returns : a.Returns held) {bs : List (BufferDeclaration × Nat)}
    (listed : ∀ b ∈ bs, b ∈ f.pipeline.buffers.zipIdx) (ready : Delivering a held f environment contents p)
    (ran : bs.forM (fun b => deliver (Console.shell time) verbose f b.1 ⟨⟨0⟩, b.2⟩) p c = ((.ok (), q), c')) :
    f.Supplied contents bs ∧ FileTree.Writes (bs.filterMap (f.outgoing? contents)) c.tree c'.tree := by
  induction bs generalizing p c with
  | nil =>
    cases ran
    exact ⟨by simp [PipelineFile.Supplied], .nil _⟩
  | cons b bs ih =>
    obtain ⟨here, others⟩ := List.forall_mem_cons.mp listed
    obtain ⟨_, p', c₁, first, ran⟩ := ran_bind.mp ran
    obtain ⟨ready, supplied, written⟩ := delivered_one returns here ready first
    obtain ⟨rest, later⟩ := ih others ready ran
    refine ⟨List.forall_mem_cons.mpr ⟨List.forall_mem_singleton.mp supplied, rest⟩, ?_⟩
    have split : (b :: bs).filterMap (f.outgoing? contents) =
        (f.outgoing? contents b).toList ++ bs.filterMap (f.outgoing? contents) := by
      cases out : f.outgoing? contents b with
      | none => rw [List.filterMap_cons_none out, Option.toList_none, List.nil_append]
      | some w => rw [List.filterMap_cons_some out, Option.toList_some, List.singleton_append]
    rw [split]
    exact written.append later

theorem writes_of_delivered {built : String} (returns : a.Returns held)
    (ready : Delivering a held f environment contents p)
    (ran : delivered (Console.shell time) verbose f (f.pipeline.handles ⟨0⟩) built p c = ((.ok (), q), c')) :
    f.Supplied contents f.pipeline.buffers.zipIdx ∧
      FileTree.Writes (f.pipeline.buffers.zipIdx.filterMap (f.outgoing? contents)) c.tree c'.tree := by
  obtain ⟨_, c₁, timed, ran⟩ := ran_outside ran
  cases timed
  obtain ⟨_, p', c₂, loop, ran⟩ := ran_bind.mp ran
  rw [zip_handles, List.forM_eq_forM, List.forM_map] at loop
  have tree : c'.tree = c₂.tree := by
    cases verbose with
    | false =>
      cases ran
      rfl
    | true =>
      cases ran
      rfl
  rw [tree]
  exact delivered_all returns (fun _ member => member) ready loop

theorem reaches_of_accepted {format : Pipeline.Format} {platform : Platform σ} {request : RunRequest}
    (accepted : ((Command.run request).execute format (Console.shell time) platform verbose c).1.code = 0) :
    ∃ f p r a memory built q, Reaches format (Console.shell time) platform request c f p ∧
      platform.openDevice r = (.ok a, memory) ∧ Delivering a held f a.environment (p.deviceContents held) p ∧
      delivered (Console.shell time) verbose f (f.pipeline.handles ⟨0⟩) built p c =
        ((.ok (), q), ((Command.run request).execute format (Console.shell time) platform verbose c).2) := by
  have steady (path : Path) := Console.still_read time path
  have timed : Still (Console.shell time).lap := fun _ => rfl
  obtain ⟨left, ran⟩ := ran_of_accepted accepted
  obtain ⟨f, environment, a, memory, q, loaded, chosen, opened, done⟩ := ran_execute steady ran
  rw [steps_eq] at done
  obtain ⟨⟨declared, built⟩, p, s, before, after⟩ := ran_bind.mp done
  obtain ⟨rfl, adapter, graph, rfl⟩ := alike_of_computed steady timed before
  exact ⟨f, p, _, a, memory, built, q, ⟨loaded, environment, a, memory, built, chosen, opened, before⟩, opened,
    ⟨adapter, congrArg Graph.registry graph, rfl⟩, after⟩

end Run

theorem RawFloats.encode_injective {data data' : Array Single} (same : encode data = encode data') :
    data = data' := by
  have sizes : data.size = data'.size := by
    have both := (size_encode data).symm.trans ((congrArg ByteArray.size same).trans (size_encode data'))
    exact Nat.eq_of_mul_eq_mul_right (by decide) both
  have read := read?_encode data
  rw [same, sizes, read?_encode] at read
  exact (Option.some.inj read).symm

namespace PipelineFile

variable {f : PipelineFile} {contents : Nat → Option (Array Single)} {t u : FileTree}

def lastTo? (f : PipelineFile) (t : FileTree) (place : Place) : Option (BufferDeclaration × Nat) :=
  f.pipeline.buffers.zipIdx.reverse.find? fun b => b.1.output.any fun path => t.file? (f.resolve path) = some place

def Delivered (f : PipelineFile) (contents : Nat → Option (Array Single)) (t : FileTree) : Prop :=
  ∀ b ∈ f.pipeline.buffers.zipIdx, ∀ path, b.1.output = some path → ∃ data, contents b.2 = some data ∧
    data.size = f.elements b.1 ∧ t.read (f.resolve path) = .ok (RawFloats.encode data)

theorem outgoing?_eq_some {b : BufferDeclaration × Nat} {w : Path × ByteArray} :
    f.outgoing? contents b = some w ↔ ∃ path data, b.1.output = some path ∧ contents b.2 = some data ∧
      w = (f.resolve path, RawFloats.encode data) := by
  simp only [outgoing?, Option.bind_eq_some_iff, Option.map_eq_some_iff]
  constructor
  · rintro ⟨path, output, data, held, rfl⟩
    exact ⟨path, data, output, held, rfl⟩
  · rintro ⟨path, data, output, held, rfl⟩
    exact ⟨path, output, data, held, rfl⟩

theorem read_of_writes (supplied : f.Supplied contents f.pipeline.buffers.zipIdx)
    (writes : FileTree.Writes (f.pipeline.buffers.zipIdx.filterMap (f.outgoing? contents)) t u) :
    ∀ b ∈ f.pipeline.buffers.zipIdx, ∀ path, b.1.output = some path → ∃ place last data,
      t.file? (f.resolve path) = some place ∧ f.lastTo? t place = some last ∧ contents last.2 = some data ∧
      data.size = f.elements last.1 ∧ u.read (f.resolve path) = .ok (RawFloats.encode data) := by
  intro b listed path output
  obtain ⟨data, held, size⟩ := supplied b listed (by simp [output])
  have member : (f.resolve path, RawFloats.encode data) ∈ f.pipeline.buffers.zipIdx.filterMap (f.outgoing? contents) :=
    List.mem_filterMap.mpr ⟨b, listed, outgoing?_eq_some.mpr ⟨path, data, output, held, rfl⟩⟩
  obtain ⟨place, w, leads, found, read⟩ := writes.read member
  rw [← List.filterMap_reverse, List.find?_filterMap, Option.bind_eq_some_iff] at found
  obtain ⟨last, found, going⟩ := found
  obtain ⟨path', kept, output', held', rfl⟩ := outgoing?_eq_some.mp going
  have searched : f.lastTo? t place = some last := by
    rw [← found, lastTo?]
    refine List.find?_congr fun x reversed => ?_
    cases goes : x.1.output with
    | none => rw [outgoing?, goes, Option.bind_none]; rfl
    | some path =>
      obtain ⟨data, held, -⟩ := supplied x (List.mem_reverse.mp reversed) (by simp [goes])
      rw [outgoing?, goes, Option.bind_some, held]
      rfl
  obtain ⟨data', held'', size'⟩ :=
    supplied last (List.mem_reverse.mp (List.mem_of_find?_eq_some found)) (by simp [output'])
  cases held'.symm.trans held''
  exact ⟨place, last, kept, leads, searched, held', size', read⟩

theorem delivered_iff (supplied : f.Supplied contents f.pipeline.buffers.zipIdx)
    (writes : FileTree.Writes (f.pipeline.buffers.zipIdx.filterMap (f.outgoing? contents)) t u) :
    f.Delivered contents u ↔ ∀ b ∈ f.pipeline.buffers.zipIdx, ∀ b' ∈ f.pipeline.buffers.zipIdx, ∀ path path',
      b.1.output = some path → b'.1.output = some path' → t.file? (f.resolve path) = t.file? (f.resolve path') →
        contents b.2 = contents b'.2 := by
  have last := read_of_writes supplied writes
  constructor
  · intro all b listed b' listed' path path' output output' shared
    obtain ⟨data, held, -, read⟩ := all b listed path output
    obtain ⟨data', held', -, read'⟩ := all b' listed' path' output'
    obtain ⟨place, _, _, leads, -⟩ := last b listed path output
    have same := writes.sameDirectories.file?
    obtain ⟨here, leads₁, bytes⟩ := FileTree.read_eq_ok.mp read
    obtain ⟨there, leads₂, bytes'⟩ := FileTree.read_eq_ok.mp read'
    rw [same] at leads₁ leads₂
    rw [shared, leads₂] at leads₁
    cases leads₁
    rw [held, held', RawFloats.encode_injective (Option.some.inj (bytes.symm.trans bytes'))]
  · intro agree b listed path output
    obtain ⟨place, b', data, leads, searched, held, -, read⟩ := last b listed path output
    have listed' := List.mem_reverse.mp (List.mem_of_find?_eq_some searched)
    obtain ⟨path', output', leads'⟩ : ∃ path', b'.1.output = some path' ∧ t.file? (f.resolve path') = some place := by
      simpa [Option.any_eq_true] using List.find?_some searched
    have same := agree b listed b' listed' path path' output output' (leads.trans leads'.symm)
    obtain ⟨own, known, size⟩ := supplied b listed (by simp [output])
    rw [known, held] at same
    cases same
    exact ⟨data, known, size, read⟩

end PipelineFile

namespace HostMemory

def held (m : HostMemory) (d : DeviceBuffer) : Option (Array Single) := (m.stored d).toOption

theorem adapter_returns (environment : Environment) : (adapter environment).Returns held := by
  have answered {n : Nat} {d : DeviceBuffer} {host data : Vector Single n} {memory after : HostMemory}
      (downloaded : memory.download d host = (.ok (), data, after)) :
      memory.stored d = .ok data.toArray ∧ after = memory.note (.download d.key n) := by
    rcases download_cases host with ⟨e, -, failed⟩ | ⟨same, moved, done⟩
    · cases failed.symm.trans downloaded
    · cases done.symm.trans downloaded
      exact ⟨stored_eq_ok.mpr (transfer_eq_ok.mp moved).2.1, rfl⟩
  constructor
  · intro n d host data memory after downloaded
    exact toOption_eq_some.mpr (answered downloaded).1
  · intro n d host data memory after downloaded
    rw [(answered downloaded).2]
    rfl

end HostMemory

namespace Run

/-- After a run that succeeds, the file of each output holds what the device held after the last dispatch for the last
buffer whose output goes to that file. So all outputs are delivered just if those that share a file are the same. -/
theorem run_delivers_last (format : Pipeline.Format) (platform : Platform σ)
    (held : σ → DeviceBuffer → Option (Array Single))
    (returns : ∀ r a memory, platform.openDevice r = (.ok a, memory) → a.Returns held) (time : String)
    (verbose : Bool) (request : RunRequest) (c : Console) :
    let outcome := (Command.run request).execute format (Console.shell time) platform verbose c
    outcome.1.code = 0 → ∃ f p, Reaches format (Console.shell time) platform request c f p ∧
      let buffers := f.pipeline.buffers.zipIdx
      let contents := p.deviceContents held
      (∀ b ∈ buffers, b.1.output.isSome → ∃ data, contents b.2 = some data ∧ data.size = f.elements b.1) ∧
      (∀ b ∈ buffers, ∀ path, b.1.output = some path → ∃ place last data,
        c.tree.file? (f.resolve path) = some place ∧ f.lastTo? c.tree place = some last ∧
          contents last.2 = some data ∧ data.size = f.elements last.1 ∧
          outcome.2.tree.read (f.resolve path) = .ok (RawFloats.encode data)) ∧
      (f.Delivered contents outcome.2.tree ↔ ∀ b ∈ buffers, ∀ b' ∈ buffers, ∀ path path',
        b.1.output = some path → b'.1.output = some path' →
          c.tree.file? (f.resolve path) = c.tree.file? (f.resolve path') → contents b.2 = contents b'.2) := by
  intro outcome accepted
  obtain ⟨f, p, r, a, memory, built, q, reaches, opened, ready, ran⟩ := reaches_of_accepted accepted
  obtain ⟨supplied, writes⟩ := writes_of_delivered (returns r a memory opened) ready ran
  exact ⟨f, p, reaches, supplied, PipelineFile.read_of_writes supplied writes,
    PipelineFile.delivered_iff supplied writes⟩

def sharing : Console where
  tree.working := []
  tree.nodes := [(["p"], .file ("width: 1\nheight: 1\n" ++
    "buffers: [{name: b, fill: 2, output: o}, {name: c, fill: 3, output: o}]\n" ++
    "kernels: [{name: k, source: k, outputs: [{binding: B, buffer: b}]}]\n").toUTF8),
    (["k"], .file "__kernel".toUTF8)]

def sharingFile : PipelineFile where
  directory := ⟨""⟩
  pipeline.environment := none
  pipeline.width := 1
  pipeline.height := 1
  pipeline.buffers := [⟨"b", 1, none, some (.ofInt 2), some ⟨"o"⟩⟩, ⟨"c", 1, none, some (.ofInt 3), some ⟨"o"⟩⟩]
  pipeline.kernels := [⟨"k", some ⟨"k"⟩, [], [⟨"B", "b"⟩], []⟩]

def sharingRequest : RunRequest := ⟨⟨"p"⟩, some .openCL, .auto, 16⟩

def sharingRun : Ending HostMemory × Console :=
  (Command.run sharingRequest).execute Pipeline.yaml (Console.shell "0s") oneRoutine false sharing

def sharingSource : SourceText := (sharingFile.readSources (Console.shell "0s").files sharing).1

def sharingStart : Processor HostMemory :=
  .create (HostMemory.adapter .openCL) (oneRoutine.openDevice { environment := .openCL }).2 ⟨0⟩

def sharingHalfway : Processor HostMemory :=
  (computed (Console.shell "0s") sharingFile sharingSource sharingStart sharing).1.2

theorem sharing_evaluates :
    let files := (Console.shell "0s").files
    let before := computed (Console.shell "0s") sharingFile sharingSource sharingStart sharing
    let after := steps (Console.shell "0s") false sharingFile sharingSource sharingStart sharing
    ((PipelineFile.load Pipeline.yaml files ⟨"p"⟩ sharing).1.toOption = some sharingFile ∧
      before.1.1.toOption = some (sharingFile.pipeline.handles ⟨0⟩, "0s")) ∧
    (before.1.2.deviceContents HostMemory.held 0 = some #[.ofInt 2] ∧
      before.1.2.deviceContents HostMemory.held 1 = some #[.ofInt 3]) ∧
    (after.1.1.toOption = some () ∧
      (after.2.tree.read ⟨"o"⟩).toOption = some (RawFloats.encode #[.ofInt 3])) ∧
    sharing.tree.file? (sharingFile.resolve ⟨"o"⟩) = some ["o"] ∧
      sharingFile.lastTo? sharing.tree ["o"] = some (sharingFile.pipeline.buffers[1], 1) := by
  -- Evaluation stops at the search for a character, which is recursion over an iterator.
  delta sharingSource PipelineFile.lastTo? FileTree.file? Console.shell FileTree.files FileTree.read FileTree.write
    FileTree.createDirectory FileTree.isDirectory FileTree.destination
  simp only [String.contains_char_eq]
  decide +kernel

theorem sharing_reaches :
    Reaches Pipeline.yaml (Console.shell "0s") oneRoutine sharingRequest sharing sharingFile sharingHalfway := by
  obtain ⟨⟨loaded, computes⟩, -⟩ := sharing_evaluates
  have ran : computed (Console.shell "0s") sharingFile sharingSource sharingStart sharing =
      ((.ok (sharingFile.pipeline.handles ⟨0⟩, "0s"), sharingHalfway), _) :=
    Prod.ext (Prod.ext (toOption_eq_some.mp computes) rfl) rfl
  obtain ⟨-, -, -, same⟩ := alike_of_computed (Console.still_read "0s") (fun _ => rfl) ran
  rw [same] at ran
  exact ⟨toOption_eq_some.mp loaded, .openCL, _, _, "0s", rfl, rfl, ran⟩

theorem sharing_ended : sharingRun.1.code = 0 ∧
    sharingRun.2.tree.read ⟨"o"⟩ = .ok (RawFloats.encode #[.ofInt 3]) := by
  obtain ⟨-, -, ⟨done, read⟩, -⟩ := sharing_evaluates
  have chosen : sharingFile.pipeline.environmentOr sharingRequest.environment = .ok .openCL := rfl
  have ended : sharingRun = _ := ended_of_steps (Console.still_read "0s") sharing_reaches.loaded chosen rfl
    (Prod.ext (Prod.ext (toOption_eq_some.mp done) rfl) rfl)
  rw [ended]
  exact ⟨rfl, toOption_eq_some.mp read⟩

theorem oneRoutine_returns (r : DeviceRequest) (a : Adapter HostMemory) (memory : HostMemory)
    (opened : oneRoutine.openDevice r = (.ok a, memory)) : a.Returns HostMemory.held := by
  cases opened
  exact HostMemory.adapter_returns r.environment

theorem run_delivers_last_sharing :
    (∀ r a memory, oneRoutine.openDevice r = (.ok a, memory) → a.Returns HostMemory.held) ∧ sharingRun.1.code = 0 ∧
      sharingHalfway.deviceContents HostMemory.held 1 = some #[.ofInt 3] ∧
      sharingRun.2.tree.read (sharingFile.resolve ⟨"o"⟩) = .ok (RawFloats.encode #[.ofInt 3]) := by
  obtain ⟨-, ⟨-, three⟩, -, leads, last⟩ := sharing_evaluates
  obtain ⟨f, p, reaches, -, each, -⟩ :=
    run_delivers_last Pipeline.yaml oneRoutine HostMemory.held oneRoutine_returns "0s" false
    sharingRequest sharing sharing_ended.1
  obtain ⟨rfl, rfl⟩ := reaches.unique sharing_reaches
  obtain ⟨place, b, data, leads', last', held, -, read⟩ :=
    each (sharingFile.pipeline.buffers[0], 0) (by decide) ⟨"o"⟩ rfl
  cases leads.symm.trans leads'
  cases last.symm.trans last'
  cases three.symm.trans held
  exact ⟨oneRoutine_returns, sharing_ended.1, three, read⟩

theorem shared_output_lost : sharingRun.1.code = 0 ∧ ∃ f p,
    Reaches Pipeline.yaml (Console.shell "0s") oneRoutine sharingRequest sharing f p ∧
      ¬ f.Delivered (p.deviceContents HostMemory.held) sharingRun.2.tree := by
  refine ⟨sharing_ended.1, sharingFile, sharingHalfway, sharing_reaches, fun all => ?_⟩
  obtain ⟨-, ⟨two, -⟩, -⟩ := sharing_evaluates
  obtain ⟨data, held, -, read⟩ := all (sharingFile.pipeline.buffers[0], 0) (by decide) ⟨"o"⟩ rfl
  cases two.symm.trans held
  have here : sharingFile.resolve ⟨"o"⟩ = ⟨"o"⟩ := by decide
  rw [here, sharing_ended.2] at read
  have same := RawFloats.encode_injective (Except.ok.inj read)
  revert same
  decide

end Run

end PixelPipeline
