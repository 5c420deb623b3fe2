import MajiroScript.Command.Run
import MajiroScript.Proofs.Directory
import MajiroScript.Proofs.Export
import MajiroScript.Proofs.Listing

/-! What commands give for an input.  Every script that can be opened can also be
written, so a rebuilt image is always the one that was opened, and a command
gives the same bytes to a file as to the terminal. -/
namespace MajiroScript

open Outcome

namespace Directory

variable {directory after : Directory} {path : String}

theorem foldl_length_eq (pieces : List Bytes) (count : Nat) :
    pieces.foldl (fun count piece => count + piece.length) count =
      count + pieces.flatten.length := by
  induction pieces generalizing count with
  | nil => rfl
  | cons piece pieces ih =>
      rw [List.foldl_cons, ih, List.flatten_cons, List.length_append, Nat.add_assoc]

theorem savePieces_eq_save (pieces : List Bytes) :
    directory.savePieces path pieces = directory.save path (.ok pieces.flatten) := by
  simp only [savePieces, foldl_length_eq, Nat.zero_add]
  rfl

theorem save_eq_ok_iff {product : Except EncodeError Bytes} {stats : OutputStats} :
    directory.save path product = .ok (stats, after) ↔
      ∃ bytes, product = .ok bytes ∧ directory.write path bytes = .ok after ∧
        stats = ⟨bytes.length, some (sha256 bytes)⟩ := by
  simp only [save, bind_eq_ok_iff, mapError_eq_ok_iff, pure_eq_ok_iff, Prod.mk.injEq]
  constructor
  · rintro ⟨bytes, hbytes, _, hwrite, hstats, rfl⟩
    exact ⟨bytes, hbytes, hwrite, hstats.symm⟩
  · rintro ⟨bytes, hbytes, hwrite, hstats⟩
    exact ⟨bytes, hbytes, after, hwrite, hstats.symm, rfl⟩

end Directory

def Container.inputStats (container : Container) (image : Bytes) : InputStats where
  size := image.length
  headerLength := container.headerLength
  instructions := container.script.size
  sha256 := sha256 image

theorem Container.loadWithStats_eq_ok_iff {directory : Directory} {path : String}
    {codec : Codec} {key : Keystream} {container : Container} {stats : InputStats} :
    loadWithStats codec key directory path = .ok (container, stats) ↔
      ∃ image, directory.read path = .ok image ∧
        ofImage codec key image = .ok container ∧
        stats = container.inputStats image := by
  simp only [loadWithStats, Directory.load, bind_eq_ok_iff, mapError_eq_ok_iff,
    pure_eq_ok_iff, Prod.mk.injEq]
  constructor
  · rintro ⟨image, hread, found, hopen, rfl, hstats⟩
    exact ⟨image, hread, hopen, hstats.symm⟩
  · rintro ⟨image, hread, hopen, hstats⟩
    exact ⟨image, hread, container, hopen, rfl, hstats.symm⟩

namespace Command

variable {invocation : Invocation} {directory : Directory} {path : String} {input : Input}
  {notes : List Note} {image bytes : Bytes}

structure Input.OpenedFrom (input : Input) (invocation : Invocation) (directory : Directory)
    (path : String) (image : Bytes) : Prop where
  key_eq : (loadKey invocation directory).2 = .ok input.key
  read_eq : directory.read path = .ok image
  container_eq : Container.ofImage invocation.codec input.key image = .ok input.container
  stats_eq : input.stats = input.container.inputStats image

theorem openInput_eq_ok_iff :
    (openInput invocation directory path).2 = .ok input ↔
      ∃ image, input.OpenedFrom invocation directory path image := by
  unfold openInput
  split
  · rename_i message hkey
    constructor
    · intro h
      contradiction
    · rintro ⟨image, h⟩
      have hloaded := h.key_eq
      rw [hkey] at hloaded
      contradiction
  · rename_i key hkey
    dsimp only
    constructor
    · intro h
      split at h
      · contradiction
      · rename_i container stats hload
        obtain rfl := Except.ok.inj h
        obtain ⟨image, hread, hopen, hstats⟩ := Container.loadWithStats_eq_ok_iff.mp hload
        exact ⟨image, by rw [hkey], hread, hopen, hstats⟩
    · rintro ⟨image, h⟩
      have hloaded := h.key_eq
      rw [hkey] at hloaded
      obtain rfl := Except.ok.inj hloaded
      have hload := Container.loadWithStats_eq_ok_iff.mpr
        ⟨image, h.read_eq, h.container_eq, h.stats_eq⟩
      rw [hload]

theorem exists_openInput_iff :
    (∃ input, (openInput invocation directory path).2 = .ok input) ↔
      ∃ key image container, (loadKey invocation directory).2 = .ok key ∧
        directory.read path = .ok image ∧
        Container.ofImage invocation.codec key image = .ok container := by
  simp only [openInput_eq_ok_iff]
  constructor
  · rintro ⟨input, image, h⟩
    exact ⟨input.key, image, input.container, h.key_eq, h.read_eq, h.container_eq⟩
  · rintro ⟨key, image, container, hkey, hread, hopen⟩
    exact ⟨⟨container, container.inputStats image, key⟩, image, hkey, hread, hopen, rfl⟩

theorem Input.OpenedFrom.takenFrom (h : input.OpenedFrom invocation directory path image) :
    input.container.TakenFrom invocation.codec input.key image :=
  Container.ofImage_eq_ok_iff.mp h.container_eq

theorem Input.OpenedFrom.toImage (h : input.OpenedFrom invocation directory path image) :
    input.container.toImage input.key = .ok image := by
  rw [h.takenFrom.toImage, Obfuscation.toggle_toggle]

theorem firstDifference?_self (bytes : Bytes) : firstDifference? bytes bytes = none := by
  induction bytes with
  | nil => rfl
  | cons byte bytes ih =>
      unfold firstDifference? at ih ⊢
      rw [List.zip_cons_cons, List.findIdx?_cons, ih]
      simp

theorem checkRebuilt_of_openedFrom (h : input.OpenedFrom invocation directory path image)
    (notes : List Note) :
    checkRebuilt invocation directory path notes input =
      done invocation directory
        (notes ++ if invocation.quiet then [] else [.line (say s!"{path}: round-trip ok")])
        "rebuild" input none [] := by
  simp only [checkRebuilt, h.toImage, h.read_eq, firstDifference?_self, ne_eq, not_true_eq_false,
    if_false]

theorem failed_status_ne (directory : Directory) (notes : List Note) (message : String) :
    (failed directory notes message).status ≠ 0 := by
  change (1 : UInt32) ≠ 0
  decide

theorem withInput_of_error {message : String} {command : List Note → Input → Outcome}
    (h : openInput invocation directory path = (notes, .error message)) :
    withInput invocation directory path command = failed directory notes message := by
  rw [withInput, h]

theorem withInput_of_ok {command : List Note → Input → Outcome}
    (h : openInput invocation directory path = (notes, .ok input)) :
    withInput invocation directory path command = command notes input := by
  rw [withInput, h]

namespace Exporter

variable {exporter : Exporter}

theorem toFile_of_save {stats : OutputStats} {after : Directory}
    (hallowed : directory.contains path = true → invocation.force = true)
    (hsave : exporter.save input directory path = .ok (stats, after)) :
    exporter.toFile invocation directory notes input path =
      done invocation after notes exporter.name input (some stats) [] := by
  have hrefused : ¬ (directory.contains path && !invocation.force) := by
    simpa using hallowed
  simp only [toFile, if_neg hrefused, hsave]

theorem toFile_cases :
    (∃ message, exporter.toFile invocation directory notes input path =
      failed directory notes message) ∨
    ∃ stats after, exporter.save input directory path = .ok (stats, after) ∧
      (directory.contains path = true → invocation.force = true) ∧
      exporter.toFile invocation directory notes input path =
        done invocation after notes exporter.name input (some stats) [] := by
  by_cases hrefused : directory.contains path && !invocation.force
  · exact .inl ⟨_, by rw [toFile, if_pos hrefused]⟩
  · have hallowed : directory.contains path = true → invocation.force = true := by
      simpa using hrefused
    cases hsave : exporter.save input directory path with
    | error error => exact .inl ⟨_, by rw [toFile, if_neg hrefused, hsave]⟩
    | ok saved => exact .inr ⟨saved.1, saved.2, rfl, hallowed, toFile_of_save hallowed hsave⟩

/-- For an input, a command has these bytes and saves them as they are. -/
structure Gives (exporter : Exporter) (input : Input) (bytes : Bytes) : Prop where
  product_eq : exporter.product input = .ok bytes
  save_eq : ∀ directory path,
    exporter.save input directory path = directory.save path (.ok bytes)

theorem gives_disasm (input : Input) : disasm.Gives input input.container.listingBytes where
  product_eq := rfl
  save_eq directory path := by
    rw [← Container.flatten_listingPieces]
    exact Directory.savePieces_eq_save _

theorem gives_rebuild (h : input.OpenedFrom invocation directory path image) :
    rebuild.Gives input image where
  product_eq := h.toImage
  save_eq directory path := congrArg (directory.save path) h.toImage

theorem gives_unpack (h : input.OpenedFrom invocation directory path image) :
    unpack.Gives input (Obfuscation.toggle input.container.headerLength input.key image) where
  product_eq := h.takenFrom.toPlainImage
  save_eq directory path := congrArg (directory.save path) h.takenFrom.toPlainImage

theorem Gives.save_eq_ok_iff (h : exporter.Gives input bytes) {stats : OutputStats}
    {after : Directory} :
    exporter.save input directory path = .ok (stats, after) ↔
      directory.write path bytes = .ok after ∧ stats = ⟨bytes.length, some (sha256 bytes)⟩ := by
  simp only [h.save_eq, Directory.save_eq_ok_iff, Except.ok.injEq, exists_eq_left']

def all : List ((String → Option String → Action) × Exporter) :=
  [(.disasm, disasm), (.rebuild, rebuild), (.unpack, unpack)]

variable {action : String → Option String → Action}

theorem run_eq (h : (action, exporter) ∈ all) (output : Option String) :
    Command.run { invocation with action := action path output } directory =
      exporter.run invocation directory path output := by
  simp only [all, List.mem_cons, List.not_mem_nil, Prod.mk.injEq, or_false] at h
  obtain ⟨rfl, rfl⟩ | ⟨rfl, rfl⟩ | ⟨rfl, rfl⟩ := h
  -- Once the command is chosen, nothing looks at the action again.
  all_goals rfl

theorem exists_gives (h : (action, exporter) ∈ all)
    (himage : input.OpenedFrom invocation directory path image) :
    ∃ bytes, exporter.Gives input bytes := by
  simp only [all, List.mem_cons, List.not_mem_nil, Prod.mk.injEq, or_false] at h
  obtain ⟨-, rfl⟩ | ⟨-, rfl⟩ | ⟨-, rfl⟩ := h
  · exact ⟨_, gives_disasm input⟩
  · exact ⟨_, gives_rebuild himage⟩
  · exact ⟨_, gives_unpack himage⟩

/-- With a file that can be created, a command succeeds exactly when it does
without one.  The file then holds what the terminal is given, and its size and
digest, as they are reported, are those of these bytes. -/
theorem run_toFile_agrees (hexporter : (action, exporter) ∈ all) (path : String)
    {output : String} (hcreatable : directory.Creatable invocation.force output) :
    let shown := Command.run { invocation with action := action path none } directory
    let saved := Command.run { invocation with action := action path (some output) } directory
    saved.status = shown.status ∧
    (shown.status = 0 →
      saved.directory.read output = .ok shown.output ∧
      ∃ notes input stats, openInput invocation directory path = (notes, .ok input) ∧
        exporter.save input directory output = .ok (stats, saved.directory) ∧
        stats = ⟨shown.output.length, some (sha256 shown.output)⟩ ∧
        saved.notes =
          notes ++ (report invocation exporter.name input.stats (some stats)).map .line) := by
  rw [run_eq hexporter, run_eq hexporter]
  rcases hopen : openInput invocation directory path with ⟨notes, message | input⟩
  · rw [run, run, withInput_of_error hopen, withInput_of_error hopen]
    exact ⟨rfl, fun hstatus => absurd hstatus (failed_status_ne _ _ _)⟩
  · obtain ⟨image, himage⟩ := openInput_eq_ok_iff.mp (congrArg Prod.snd hopen)
    obtain ⟨bytes, hgives⟩ := exists_gives hexporter himage
    obtain ⟨after, hwrite⟩ := hcreatable.exists_write bytes
    have hsave := hgives.save_eq_ok_iff.mpr ⟨hwrite, rfl⟩
    rw [run, run, withInput_of_ok hopen, withInput_of_ok hopen]
    simp only [toFile_of_save hcreatable.contains_imp hsave, toTerminal, hgives.product_eq]
    exact ⟨rfl, fun _ => ⟨Directory.read_of_write hwrite, notes, input, _, rfl, hsave, rfl, rfl⟩⟩

theorem run_toFile_agrees_listing :
    let directory : Directory :=
      ⟨[(["script.mjo"], .file (Header.signature ++ List.replicate 16 0 ++
          [0x5B, 0x08, 0x02, 0x00, 0xC3, 0xA9])),
        (["key.txt"], .file "5A".toUTF8.toList),
        (["listings"], .folder)]⟩
    let invocation : Invocation :=
      { action := .disasm "script.mjo" (some "listings/script.txt")
        keystream := some "key.txt"
        codec := ⟨.utf8, true⟩ }
    (Command.run invocation directory).directory.read "listings/script.txt" =
      .ok "0x801\té\n".toUTF8.toList := by
  intro directory invocation
  have hcreatable : directory.Creatable invocation.force "listings/script.txt" :=
    ⟨["listings", "script.txt"], by decide +kernel, .inl (by decide +kernel)⟩
  have hdisasm : (Action.disasm, disasm) ∈ all := List.mem_cons_self
  obtain ⟨-, hagrees⟩ := run_toFile_agrees hdisasm "script.mjo" hcreatable
  obtain ⟨hread, -⟩ := hagrees (by decide +kernel)
  rw [hread]
  decide +kernel

end Exporter

theorem run_check_of_error {message : String}
    (hopen : openInput invocation directory path = (notes, .error message)) :
    run { invocation with action := .check path } directory = failed directory notes message :=
  withInput_of_error hopen

theorem run_check_of_ok (hopen : openInput invocation directory path = (notes, .ok input)) :
    run { invocation with action := .check path } directory =
      done invocation directory
        (notes ++ if invocation.quiet then [] else [.line (say s!"{path}: round-trip ok")])
        "rebuild" input none [] := by
  obtain ⟨image, himage⟩ := openInput_eq_ok_iff.mp (congrArg Prod.snd hopen)
  exact (withInput_of_ok hopen).trans (checkRebuilt_of_openedFrom himage notes)

theorem status_check_eq_zero_iff :
    (run { invocation with action := .check path } directory).status = 0 ↔
      ∃ input, (openInput invocation directory path).2 = .ok input := by
  rcases hopen : openInput invocation directory path with ⟨notes, message | input⟩
  · rw [run_check_of_error hopen]
    simp [failed_status_ne]
  · rw [run_check_of_ok hopen]
    exact ⟨fun _ => ⟨input, rfl⟩, fun _ => rfl⟩

theorem exists_error_of_check
    (hstatus : (run { invocation with action := .check path } directory).status ≠ 0) :
    ∃ notes message, openInput invocation directory path = (notes, .error message) ∧
      run { invocation with action := .check path } directory =
        failed directory notes message := by
  rcases hopen : openInput invocation directory path with ⟨notes, message | input⟩
  · exact ⟨notes, message, rfl, run_check_of_error hopen⟩
  · rw [run_check_of_ok hopen] at hstatus
    exact absurd rfl hstatus

theorem exists_save_of_rebuild {output : String}
    (hstatus :
      (run { invocation with action := .rebuild path (some output) } directory).status = 0) :
    ∃ notes input image stats after, openInput invocation directory path = (notes, .ok input) ∧
      input.OpenedFrom invocation directory path image ∧
      Exporter.rebuild.save input directory output = .ok (stats, after) ∧
      run { invocation with action := .rebuild path (some output) } directory =
        done invocation after notes "rebuild" input (some stats) [] := by
  rcases hopen : openInput invocation directory path with ⟨notes, message | input⟩
  · have hrun : run { invocation with action := .rebuild path (some output) } directory =
        failed directory notes message :=
      withInput_of_error hopen
    rw [hrun] at hstatus
    exact absurd hstatus (failed_status_ne _ _ _)
  · have hrun : run { invocation with action := .rebuild path (some output) } directory =
        Exporter.rebuild.toFile invocation directory notes input output :=
      withInput_of_ok hopen
    rw [hrun] at hstatus ⊢
    obtain ⟨image, himage⟩ := openInput_eq_ok_iff.mp (congrArg Prod.snd hopen)
    obtain ⟨message, hfile⟩ | ⟨stats, after, hsave, -, hfile⟩ := Exporter.toFile_cases
    · rw [hfile] at hstatus
      exact absurd hstatus (failed_status_ne _ _ _)
    · exact ⟨notes, input, image, stats, after, rfl, himage, hsave, hfile⟩

/-- A rebuilt script is a copy.  Comparing it with its file succeeds for every
input that can be opened, and fails otherwise only with what kept the input from
being opened.  A file with it holds the bytes that the input had, also if it
takes the place of the input, and has the size and digest that are reported of
the input. -/
theorem run_rebuild_copies (invocation : Invocation) (directory : Directory) (path : String) :
    ((run { invocation with action := .check path } directory).status = 0 ↔
      ∃ input, (openInput invocation directory path).2 = .ok input) ∧
    ((∃ input, (openInput invocation directory path).2 = .ok input) ↔
      ∃ key image container, (loadKey invocation directory).2 = .ok key ∧
        directory.read path = .ok image ∧
        Container.ofImage invocation.codec key image = .ok container) ∧
    ((run { invocation with action := .check path } directory).status ≠ 0 →
      ∃ notes message, openInput invocation directory path = (notes, .error message) ∧
        run { invocation with action := .check path } directory =
          failed directory notes message) ∧
    ∀ output,
      let outcome := run { invocation with action := .rebuild path (some output) } directory
      outcome.status = 0 →
        ∃ notes input image stats, openInput invocation directory path = (notes, .ok input) ∧
          directory.read path = .ok image ∧
          outcome.directory.read output = .ok image ∧
          Exporter.rebuild.save input directory output = .ok (stats, outcome.directory) ∧
          stats.size = image.length ∧ input.stats.size = image.length ∧
          stats.sha256 = some (sha256 image) ∧ input.stats.sha256 = sha256 image ∧
          outcome.notes =
            notes ++ (report invocation "rebuild" input.stats (some stats)).map .line := by
  refine ⟨status_check_eq_zero_iff, exists_openInput_iff, exists_error_of_check, ?_⟩
  intro output outcome hstatus
  obtain ⟨notes, input, image, stats, after, hopen, himage, hsave, hrun⟩ :=
    exists_save_of_rebuild hstatus
  have houtcome : outcome = _ := hrun
  obtain ⟨hwrite, hstats⟩ := (Exporter.gives_rebuild himage).save_eq_ok_iff.mp hsave
  rw [houtcome]
  exact ⟨notes, input, image, stats, hopen, himage.read_eq, Directory.read_of_write hwrite, hsave,
    congrArg OutputStats.size hstats, congrArg InputStats.size himage.stats_eq,
    congrArg OutputStats.sha256 hstats, congrArg InputStats.sha256 himage.stats_eq, rfl⟩

theorem run_rebuild_copies_in_place :
    let image := Header.signature ++ List.replicate 16 0 ++
      [0x5B, 0x08, 0x02, 0x00, 0xC3, 0xA9, 0x2B]
    let directory : Directory :=
      ⟨[(["script.mjo"], .file image), (["key.txt"], .file "5A".toUTF8.toList)]⟩
    let invocation : Invocation :=
      { action := .rebuild "script.mjo" (some "script.mjo")
        keystream := some "key.txt"
        codec := ⟨.utf8, true⟩
        force := true }
    (run { invocation with action := .check "script.mjo" } directory).status = 0 ∧
    (run invocation directory).directory.read "script.mjo" = .ok image := by
  intro image directory invocation
  obtain ⟨hcheck, hopen, -, hcopy⟩ := run_rebuild_copies invocation directory "script.mjo"
  have hstatus : (run invocation directory).status = 0 := by decide +kernel
  obtain ⟨notes, input, copied, stats, hinput, hread, hcopied, -⟩ := hcopy "script.mjo" hstatus
  obtain rfl : image = copied := by
    apply Except.ok.inj
    rw [← hread]
    decide +kernel
  exact ⟨hcheck.mpr ⟨input, congrArg Prod.snd hinput⟩, hcopied⟩

end Command

end MajiroScript
