import PixelPipeline.Proofs.Delivery

namespace PixelPipeline

namespace RawFloats

variable {bytes : ByteArray} {count : Nat} {data : Array Single}

variable {W : Type} {files : Files (StateM W)} {path : Path} {w w' : W}

theorem load_of_read (opened : files.read path w = (.ok bytes, w')) :
    load files path count w =
      (match read? bytes count with
        | some data => .ok data
        | none => .error (.ofCause (.wrongSize path count bytes.size)), w') := by
  have step : load files path count w = _ := next_of_ran opened
  rw [step]
  dsimp only
  cases read? bytes count <;> rfl

structure ReadFrom (files : Files (StateM W)) (path : Path) (bytes : ByteArray) (w w' : W) : Prop where
  same : ∀ count data, load files path count w = (.ok data, w') ↔ data.size = count ∧ encode data = bytes
  sized : ∀ count, (∃ data, load files path count w = (.ok data, w')) ↔ bytes.size = 4 * count
  other : ∀ count, bytes.size ≠ 4 * count →
    load files path count w = (.error (.ofCause (.wrongSize path count bytes.size)), w')

theorem readFrom (opened : files.read path w = (.ok bytes, w')) : ReadFrom files path bytes w w' := by
  have loaded (count : Nat) (data : Array Single) :
      load files path count w = (.ok data, w') ↔ read? bytes count = some data := by
    rw [load_of_read opened]
    constructor
    · intro same
      split at same <;> cases same
      assumption
    · intro found
      rw [found]
  refine ⟨fun count data => (loaded count data).trans read?_eq_some, fun count => ?_, fun count wrong => ?_⟩
  · simp only [loaded]
    exact exists_read?_iff
  · have unread : read? bytes count = none :=
      Option.eq_none_iff_forall_ne_some.mpr fun data found => wrong (exists_read?_iff.mp ⟨data, found⟩)
    rw [load_of_read opened, unread]

theorem save_eq (files : Files (StateM W)) (path : Path) (data : Array Single) (w : W) :
    save files path data w =
      ((files.write path (encode data) w).1.mapError fun e => .during (.write path) (.file e),
        (files.write path (encode data) w).2) := by
  cases attempt : files.write path (encode data) w with
  | mk answer after =>
    have step : save files path data w = _ := next_of_ran attempt
    rw [step]
    cases answer <;> rfl

theorem read_of_write {t u : FileTree} (written : t.write path bytes = .ok u) : u.read path = .ok bytes := by
  obtain ⟨place, leads, -⟩ := FileTree.write_eq_ok.mp written
  have directories : u.file? path = some place := by
    rw [(FileTree.SameDirectories.write written).file?, leads]
  have here : u.bytes? place = some bytes := by
    rw [FileTree.bytes?_of_write written, if_pos leads]
  exact FileTree.read_eq_ok.mpr ⟨place, directories, here⟩

theorem load_of_save {time : String} {c c' : Console}
    (saved : save (Console.shell time).files path data c = (.ok (), c')) :
    load (Console.shell time).files path data.size c' = (.ok data, c') := by
  have opened : (Console.shell time).files.read path c' = (.ok (encode data), c') :=
    congrArg (·, c') (read_of_write (Run.written_of_save saved))
  exact ((readFrom opened).same _ _).mpr ⟨rfl, rfl⟩

/-- Files of floats and host contents of buffers are in one encoding, each exactly the image of the other. -/
structure Exact : Prop where
  buffer : ∀ b : Buffer, read? (encode b.data) b.size = some b.data ∧ (encode b.data).data.toList = b.bytes
  sized : ∀ bytes count, (∃ data, read? bytes count = some data) ↔ bytes.size = 4 * count
  back : ∀ bytes count data, read? bytes count = some data → encode data = bytes
  saved : ∀ time path data c c', save (Console.shell time).files path data c = (.ok (), c') →
    load (Console.shell time).files path data.size c' = (.ok data, c')

theorem exact : Exact where
  buffer b := ⟨read?_encode b.data, rfl⟩
  sized _ _ := exists_read?_iff
  back _ _ _ found := (read?_eq_some.mp found).2
  saved _ _ _ _ _ := load_of_save

end RawFloats

namespace Run

open DeviceCall

variable {σ W : Type}

theorem supply_of_unread {shell : Shell (StateM W)} {f : PipelineFile} {b : BufferDeclaration} {id : BufferId}
    {path : Path} {p : Processor σ} {c : Buffer} {w w' : W} {e : Failure} (raw : b.initial = some (.file path))
    (held : p.graph.buffer id = .ok c)
    (unread : RawFloats.load shell.files (f.resolve path) c.size w = (.error e, w')) :
    supply shell f b id p w = ((.error e, p), w') := by
  have found : (Processor.buffer id : Operation σ Buffer) p = (.ok c, p) := by rw [Processor.buffer, held]
  have asked (next : Buffer → Running σ (StateM W) Unit) :
      (perform none (Processor.buffer id) >>= next) p w = next c p w := by
    have step : (perform none (Processor.buffer id) >>= next) p w =
        ExceptT.bindCont next (((Processor.buffer id : Operation σ Buffer) p).1.mapError fun e => ⟨none, .rejected e⟩)
          ((Processor.buffer id : Operation σ Buffer) p).2 w := rfl
    rw [step, found]
    rfl
  have stopped (next : Array Single → Running σ (StateM W) Unit) :
      (outside (RawFloats.load shell.files (f.resolve path) c.size) >>= next) p w = ((.error e, p), w') := by
    have step : (outside (RawFloats.load shell.files (f.resolve path) c.size) >>= next) p w =
        ExceptT.bindCont next (RawFloats.load shell.files (f.resolve path) c.size w).1 p
          (RawFloats.load shell.files (f.resolve path) c.size w).2 := rfl
    rw [step, unread]
    rfl
  rw [supply, raw]
  exact (asked _).trans (stopped _)

end Run

namespace PipelineFile

open Duty

variable {f : PipelineFile} {files : Files Id} {environment : Environment} {storage : List DeviceBuffer}
  {programs : List Program} {b : BufferDeclaration} {i : Nat} {trace : List Access} {done : Bool}

def preparationOf (f : PipelineFile) (files : Files Id) (environment : Environment) (storage : List DeviceBuffer)
    (count : Nat) : List Duty :=
  (f.preparation files environment storage).take 2 ++
    (f.pipeline.buffers.zipIdx.take count).flatMap (f.supplies files storage)

theorem preparation_split (listed : f.pipeline.buffers[i]? = some b) :
    f.preparation files environment storage = f.preparationOf files environment storage i ++
      (f.supplies files storage (b, i) ++
        (f.pipeline.buffers.zipIdx.drop (i + 1)).flatMap (f.supplies files storage)) := by
  have place : f.pipeline.buffers.zipIdx[i]? = some (b, i) := by
    rw [List.getElem?_zipIdx, listed, Option.map_some, Nat.zero_add]
  obtain ⟨early, here⟩ := List.getElem?_eq_some_iff.mp place
  have parted : f.pipeline.buffers.zipIdx =
      f.pipeline.buffers.zipIdx.take i ++ (b, i) :: f.pipeline.buffers.zipIdx.drop (i + 1) := by
    rw [← here, List.getElem_cons_drop, List.take_append_drop]
  rw [preparationOf, List.append_assoc, ← List.flatMap_cons, ← List.flatMap_append, ← parted]
  rfl

theorem initially_of_wrong_size {path : Path} {bytes : ByteArray} (held : files.read (f.resolve path) = .ok bytes)
    (wrong : bytes.size ≠ 4 * f.elements b) (data : Array Single) : ¬ f.Initially files b (.file path) data := by
  rintro ⟨found, opened, size, -⟩
  cases held.symm.trans opened
  exact wrong size

theorem stopped_at {rest : List Duty} {initial : Initial} (listed : f.pipeline.buffers[i]? = some b)
    (raw : b.initial = some initial) (nothing : ∀ data, ¬ f.Initially files b initial data)
    (all : InOrder (f.preparation files environment storage ++ rest) trace done) :
    done = false ∧ ∃ prepared, InOrder (f.preparationOf files environment storage i) trace prepared := by
  rw [preparation_split listed, supplies, raw, List.append_assoc, List.append_assoc] at all
  rcases InOrder.append_iff.mp all with ⟨stopped, failed⟩ | ⟨before, after, rfl, prepared, others⟩
  · exact ⟨failed, false, stopped⟩
  · cases others with
    | failed stops =>
      rcases stops with ⟨data, initially, -⟩ | ⟨-, rfl, -⟩
      · exact absurd initially (nothing data)
      · rw [List.append_nil]
        exact ⟨rfl, true, prepared⟩
    | next succeeds _ =>
      rcases succeeds with ⟨data, initially, -⟩ | ⟨-, -, impossible⟩
      · exact absurd initially (nothing data)
      · exact absurd (impossible.mp rfl) not_false

theorem free_preparationOf {β : Type} {kind : Access → Option β}
    (allocates : ∀ ds answer, kind (.call (.allocate ds answer)) = none)
    (uploads : ∀ d data answer, kind (.call (.upload d data answer)) = none) (count : Nat) :
    ∀ duty ∈ f.preparationOf files environment storage count, duty.Free kind := by
  intro duty member
  have prepares : duty ∈ f.preparation files environment storage := by
    rcases List.mem_append.mp member with early | supplied
    · exact List.mem_of_mem_take early
    · obtain ⟨b, taken, listed⟩ := List.mem_flatMap.mp supplied
      have whole : duty ∈ f.pipeline.buffers.zipIdx.flatMap (f.supplies files storage) :=
        List.mem_flatMap.mpr ⟨b, List.mem_of_mem_take taken, listed⟩
      exact List.mem_cons_of_mem _ (List.mem_cons_of_mem _ whole)
  exact free_preparation allocates uploads duty prepares

end PipelineFile

namespace Run

open DeviceCall

variable {σ W : Type}

/-- A run that ends before the upload of the buffer at a place. -/
structure EndsBefore (f : PipelineFile) (files : Files Id) (environment : Environment) (i : Nat)
    (outcome : Ending (Recorded σ) × Journal W) : Prop where
  code : Exits f.pipeline false outcome.1.code
  writes : outcome.2.writes = []
  calls : ∃ storage trace prepared, outcome.1.device.elim [] (·.calls) = Access.calls trace ∧
    InOrder (f.preparationOf files environment storage i) trace prepared

theorem execute_ends {format : Pipeline.Format} {shell : Shell (StateM W)} {platform : Platform σ} {verbose : Bool}
    {request : RunRequest} {w : W} (steady : shell.Steady) {f : PipelineFile} {a : Adapter σ} {i : Nat}
    {b : BufferDeclaration} {path : Path}
    {bytes : ByteArray} (found : opened format (Files.frozen (shell.contents w)) platform request = some (f, a))
    (listed : f.pipeline.buffers[i]? = some b) (raw : b.initial = some (.file path))
    (held : shell.contents w (f.resolve path) = .ok bytes) (wrong : bytes.size ≠ 4 * f.elements b) :
    EndsBefore f (Files.frozen (shell.contents w)) a.environment i
      ((Command.run request).execute format shell.recorded platform.recorded verbose ⟨w, []⟩) := by
  obtain ⟨storage, programs, trace, complete, order, asked, written, code⟩ :=
    execute_yields format shell platform verbose request w steady found
  have nothing (data : Array Single) :
      ¬ f.Initially (Files.frozen (shell.contents w)) b (.file path) data :=
    PipelineFile.initially_of_wrong_size held wrong data
  rw [List.append_assoc] at order
  obtain ⟨rfl, prepared, order⟩ := PipelineFile.stopped_at listed raw nothing order
  have issued : (Access.calls trace).filterMap issued? = [] := by
    rw [Access.calls, List.filterMap_filterMap]
    exact order.free (PipelineFile.free_preparationOf (fun _ _ => rfl) (fun _ _ _ => rfl) i)
  refine ⟨code, ?_, storage, trace, prepared, ?_, order⟩
  · rw [written]
    exact order.quiet (PipelineFile.free_preparationOf (fun _ _ => rfl) (fun _ _ _ => rfl) i)
  · rw [asked, issued, List.map_nil, List.append_nil]

/-- Files and buffers have one encoding. With a file of another size for a buffer, supplying the buffer fails and
changes nothing, and the run that it is part of fails before the upload, and has written no file. -/
theorem raw_files_exact (format : Pipeline.Format) (shell : Shell (StateM W)) (platform : Platform σ)
    (verbose : Bool) (request : RunRequest) (w : W) (steady : shell.Steady) :
    let files := Files.frozen (shell.contents w)
    RawFloats.Exact ∧
    (∀ path bytes w w', shell.files.read path w = (.ok bytes, w') →
      RawFloats.ReadFrom shell.files path bytes w w') ∧
    (∀ path data w, RawFloats.save shell.files path data w =
      ((shell.files.write path (RawFloats.encode data) w).1.mapError fun e => .during (.write path) (.file e),
        (shell.files.write path (RawFloats.encode data) w).2)) ∧
    (∀ f b id path bytes c w w' (p : Processor σ), b.initial = some (.file path) → p.graph.buffer id = .ok c →
      shell.files.read (PipelineFile.resolve f path) w = (.ok bytes, w') → bytes.size ≠ 4 * c.size →
      supply shell f b id p w = ((.error (.ofCause (.wrongSize (f.resolve path) c.size bytes.size)), p), w')) ∧
    ∀ f a i b path bytes, opened format files platform request = some (f, a) → f.pipeline.buffers[i]? = some b →
      b.initial = some (.file path) → files.read (f.resolve path) = .ok bytes → bytes.size ≠ 4 * f.elements b →
      EndsBefore f files a.environment i
        ((Command.run request).execute format shell.recorded platform.recorded verbose ⟨w, []⟩) := by
  refine ⟨RawFloats.exact, fun _ _ _ _ => RawFloats.readFrom, RawFloats.save_eq shell.files, ?_, ?_⟩
  · intro f b id path bytes c w w' p raw held opened wrong
    exact supply_of_unread raw held ((RawFloats.readFrom opened).other c.size wrong)
  · intro f a i b path bytes found listed raw held wrong
    exact execute_ends steady found listed raw held wrong

def threeBytes : Shell (StateM Unit) :=
  still [(⟨"p"⟩, ("width: 1\nheight: 1\nbuffers: [{name: b, fill: 2}, {name: c, input: d}]\n" ++
      "kernels: [{name: k, source: k, outputs: [{binding: B, buffer: c}]}]\n").toUTF8),
    (⟨"k"⟩, "__kernel".toUTF8), (⟨"d"⟩, ⟨#[1, 2, 3]⟩)] []

def threeBytesFile : PipelineFile where
  directory := ⟨""⟩
  pipeline.environment := none
  pipeline.width := 1
  pipeline.height := 1
  pipeline.buffers := [⟨"b", 1, none, some (.ofInt 2), none⟩, ⟨"c", 1, some ⟨"d"⟩, none, none⟩]
  pipeline.kernels := [⟨"k", some ⟨"k"⟩, [], [⟨"B", "c"⟩], []⟩]

def threeBytesRun : Ending (Recorded HostMemory) × Journal Unit :=
  (Command.run ⟨⟨"p"⟩, some .openCL, .auto, 16⟩).execute Pipeline.yaml threeBytes.recorded oneRoutine.recorded false
    ⟨(), []⟩

theorem raw_files_exact_three_bytes :
    let files := Files.frozen (threeBytes.contents ())
    threeBytes.Steady ∧ threeBytesRun.1.report = "Error: d: expected 4 bytes (1 floats), got 3\n" ∧
      (threeBytesRun.1.device.elim [] (·.calls)).length = 2 ∧
      ∃ a, opened Pipeline.yaml files oneRoutine ⟨⟨"p"⟩, some .openCL, .auto, 16⟩ = some (threeBytesFile, a) ∧
        EndsBefore threeBytesFile files a.environment 1 threeBytesRun := by
  intro files
  have steady : threeBytes.Steady := fun _ _ => rfl
  have shown : threeBytesRun.1.report = "Error: d: expected 4 bytes (1 floats), got 3\n" ∧
      (threeBytesRun.1.device.elim [] (·.calls)).length = 2 ∧
      (opened Pipeline.yaml (Files.frozen (threeBytes.contents ())) oneRoutine
        ⟨⟨"p"⟩, some .openCL, .auto, 16⟩).map (·.1) =
        some threeBytesFile := by
    decide +kernel
  obtain ⟨⟨_, a⟩, found, rfl⟩ := Option.map_eq_some_iff.mp shown.2.2
  have ran : (Command.run ⟨⟨"p"⟩, some .openCL, .auto, 16⟩).execute Pipeline.yaml threeBytes.recorded
      oneRoutine.recorded false
      ⟨(), []⟩ = threeBytesRun := by
    delta threeBytesRun
    rfl
  obtain ⟨-, -, -, -, ends⟩ :=
    raw_files_exact Pipeline.yaml threeBytes oneRoutine false ⟨⟨"p"⟩, some .openCL, .auto, 16⟩ () steady
  rw [ran] at ends
  have three : files.read (threeBytesFile.resolve ⟨"d"⟩) = .ok ⟨#[1, 2, 3]⟩ :=
    Outcome.toOption_eq_some.mp (by decide +kernel)
  exact ⟨steady, shown.1, shown.2.1, a, found,
    ends threeBytesFile a 1 threeBytesFile.pipeline.buffers[1] ⟨"d"⟩ ⟨#[1, 2, 3]⟩ found rfl rfl three (by decide)⟩

end Run

end PixelPipeline
