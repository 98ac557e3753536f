/-
  File:      HvisorTool/Boot/ReadFile.lean
  Subject:   FILES READ INTO A BUFFER (`read_file`), and the JSON text that
             `virtio_start_from_json` hands to the parser.

  A buffer is the list of the bytes allocated for it, so that a store behind them shows.
  What the kernel and the allocator answer is part of the file.

  * `pageAlign`: a size rounded up to pages, as the bit operations do it;
  * `readFile`: the buffer with the file's bytes and zeros behind them, and their number;
  * `readJsonText`: the buffer with its terminator;
  * `textTerminated_iff`: the terminator lies in the buffer unless the bytes fill it.
-/
import HvisorTool.Daemon.Start
import HvisorTool.Library.Bits
import HvisorTool.Library.Outcome

namespace HvisorTool

open Library

/-! ## 1. Pages -/

/-- `sysconf(_SC_PAGESIZE)`: a power of two that a `long` holds. -/
structure PageSize where
  bytes : UInt64
  log : Nat
  isPow : bytes.toNat = 2 ^ log
  fits : log < 63

namespace PageSize

theorem pos (page : PageSize) : 0 < page.bytes.toNat := by
  rw [page.isPow]
  exact Nat.two_pow_pos _

theorem toNat_sub_one (page : PageSize) : (page.bytes - 1).toNat = 2 ^ page.log - 1 := by
  have hone : (1 : UInt64) ≤ page.bytes := UInt64.le_iff_toNat_le.mpr page.pos
  rw [UInt64.toNat_sub_of_le _ _ hone, page.isPow]
  rfl

/-- The usual page. -/
def fourKiB : PageSize := ⟨4096, 12, rfl, by decide⟩

end PageSize

/-- A size, rounded up to the next page boundary. -/
def pageAlign (page : PageSize) (size : UInt64) : UInt64 :=
  (size + page.bytes - 1) &&& ~~~(page.bytes - 1)

variable {size : UInt64} {bytes : List UInt8}

theorem toNat_pageAlign (page : PageSize) (h : size.toNat < 2 ^ 63) :
    (pageAlign page size).toNat =
      (size.toNat + page.bytes.toNat - 1) / page.bytes.toNat * page.bytes.toNat := by
  have hpow : 2 ^ page.log < 2 ^ 63 := Nat.pow_lt_pow_right (by decide) page.fits
  have hpos := Nat.two_pow_pos page.log
  have hsum : (size + page.bytes - 1).toNat = size.toNat + page.bytes.toNat - 1 := by
    rw [UInt64.sub_eq_add_neg, UInt64.add_assoc, ← UInt64.sub_eq_add_neg, UInt64.toNat_add,
      page.toNat_sub_one, page.isPow, Nat.mod_eq_of_lt (by omega)]
    omega
  rw [pageAlign, toNat_and_not_mask page.toNat_sub_one (Nat.le_of_lt (by have := page.fits; omega)),
    hsum, page.isPow]

theorem le_pageAlign (page : PageSize) (h : size.toNat < 2 ^ 63) :
    size.toNat ≤ (pageAlign page size).toNat := by
  rw [toNat_pageAlign page h]
  exact le_roundUp page.pos

/-- A size is less than its pages exactly if it does not fill them. -/
theorem lt_pageAlign_iff (page : PageSize) (h : size.toNat < 2 ^ 63) :
    size.toNat < (pageAlign page size).toNat ↔ size.toNat % page.bytes.toNat ≠ 0 := by
  rw [toNat_pageAlign page h]
  exact lt_roundUp_iff page.pos

/-! ## 2. `read_file` -/

/-- `st.st_size`: an `off_t` that is not negative. -/
structure FileSize where
  bytes : UInt64
  nonneg : bytes.toNat < 2 ^ 63

/-- A file as the system calls of `read_file` show it, with what `malloc` answers. -/
structure InputFile where
  opens : Bool
  stats : Bool
  stSize : FileSize
  mallocOk : Bool
  /-- The bytes that `read` returns; `none` where it fails. -/
  content : Option (List UInt8)
  /-- `read` returns no more than it was asked for; a file that was cut meanwhile has less. -/
  contentFits : ∀ bytes, content = some bytes → bytes.length ≤ stSize.bytes.toNat

/-- How a run can end inside the code that reads and loads files. -/
inductive FileFault where
  /-- `exit(1)`. -/
  | exit
  /-- An access to memory that is not mapped. -/
  | segv
  /-- A store behind the bytes allocated. -/
  | overflow
  deriving DecidableEq, Repr

/-- What is allocated behind the bytes read stays zero. -/
def paddedBuffer (page : PageSize) (size : FileSize) (bytes : List UInt8) : List UInt8 :=
  bytes ++ List.replicate ((pageAlign page size.bytes).toNat - bytes.length) 0

/-- `read_file`: the buffer, `none` for `NULL`, and `*filesize`. -/
def readFile (page : PageSize) (f : InputFile) :
    Except FileFault (Option (List UInt8) × UInt64) :=
  if !f.opens || !f.stats then .error .exit
  -- `memset` through the null pointer, unless there is nothing to set
  else if !f.mallocOk && pageAlign page f.stSize.bytes != 0 then .error .segv
  else
    match f.content with
    | none => .error .exit
    | some bytes =>
      .ok (if f.mallocOk then some (paddedBuffer page f.stSize bytes) else none,
        UInt64.ofNat bytes.length)

/-- The buffer is as long as the pages of the file's size. -/
theorem length_paddedBuffer (page : PageSize) {size : FileSize}
    (h : bytes.length ≤ size.bytes.toNat) :
    (paddedBuffer page size bytes).length = (pageAlign page size.bytes).toNat := by
  have hle := le_pageAlign page size.nonneg
  rw [paddedBuffer, List.length_append, List.length_replicate]
  omega

variable {page : PageSize} {f : InputFile}

/-- A file that can be read is returned. -/
theorem readFile_ok (ho : f.opens = true) (hs : f.stats = true) (hm : f.mallocOk = true)
    (hc : f.content = some bytes) :
    readFile page f = .ok (some (paddedBuffer page f.stSize bytes), UInt64.ofNat bytes.length) := by
  simp [readFile, ho, hs, hm, hc]

/-- Every call has succeeded for a buffer that is returned. -/
theorem readFile_calls {buffer : List UInt8} (h : readFile page f = .ok (some buffer, size)) :
    f.opens = true ∧ f.stats = true ∧ f.mallocOk = true ∧ ∃ bytes, f.content = some bytes := by
  unfold readFile at h
  split at h
  · cases h
  next hcalls =>
  split at h
  · cases h
  have hboth : f.opens = true ∧ f.stats = true := by simpa using hcalls
  refine ⟨hboth.1, hboth.2, ?_⟩
  cases hc : f.content with
  | none =>
    rw [hc] at h
    cases h
  | some bytes =>
    rw [hc] at h
    refine ⟨?_, bytes, rfl⟩
    by_contra hmalloc
    simp [hmalloc] at h

/-- **What `read_file` returns**: a buffer holds the bytes read, and zeros behind them. -/
theorem readFile_some {buffer : List UInt8} (h : readFile page f = .ok (some buffer, size)) :
    ∃ bytes, f.content = some bytes ∧ buffer = paddedBuffer page f.stSize bytes ∧
      size.toNat = bytes.length := by
  obtain ⟨ho, hs, hm, bytes, hc⟩ := readFile_calls h
  rw [readFile_ok ho hs hm hc] at h
  cases h
  have hfits := f.contentFits bytes hc
  have hnonneg := f.stSize.nonneg
  exact ⟨bytes, hc, rfl, toNat_ofNat64 (by omega)⟩

/-! ## 3. The JSON text of `virtio_start_from_json` -/

/-- `buffer[file_size] = '\0'`. -/
def terminateText (buffer : List UInt8) (fileSize : UInt64) : Except FileFault (List UInt8) :=
  if fileSize.toNat < buffer.length then .ok (buffer.set fileSize.toNat 0) else .error .overflow

/-- The first lines of `virtio_start_from_json`; `none` where `read_file` returns `NULL`. -/
def readJsonText (page : PageSize) (f : InputFile) : Except FileFault (Option (List UInt8)) :=
  readFile page f >>= fun r =>
    match r.1 with
    | none => .ok none
    | some buffer => (terminateText buffer r.2).map some

/-- The bytes of a string before its terminator. -/
def cString (buffer : List UInt8) : List UInt8 := buffer.takeWhile (· != 0)

/-- The terminator is stored inside the buffer, and the text ends in it. -/
structure TextTerminated (page : PageSize) (f : InputFile) : Prop where
  noOverflow : readJsonText page f ≠ .error .overflow
  terminated : ∀ text, readJsonText page f = .ok (some text) →
    ∃ j < text.length, text[j]? = some 0

theorem readFile_ne_overflow (page : PageSize) (f : InputFile) :
    readFile page f ≠ .error .overflow := by
  unfold readFile
  split
  · exact fun h => by cases h
  split
  · exact fun h => by cases h
  cases f.content with
  | none | some bytes => exact fun h => by cases h

/-- A text that is returned has been terminated where the file ends. -/
theorem readJsonText_some {text : List UInt8}
    (h : readJsonText page f = .ok (some text)) : ∃ j < text.length, text[j]? = some 0 := by
  obtain ⟨⟨buffer, size⟩, -, hrest⟩ := bind_eq_ok.mp h
  cases buffer with
  | none => cases hrest
  | some buffer =>
    obtain ⟨text', hterm, hsome⟩ := map_eq_ok.mp hrest
    cases hsome
    unfold terminateText at hterm
    split at hterm
    · next hlt =>
        cases hterm
        rw [List.length_set]
        exact ⟨size.toNat, hlt, List.getElem?_set_self hlt⟩
    · cases hterm

/-- **The terminator lies in the buffer unless the bytes read fill it.** -/
theorem textTerminated_iff (page : PageSize) (f : InputFile) :
    TextTerminated page f ↔
      ∀ buffer size, readFile page f = .ok (some buffer, size) → size.toNat < buffer.length := by
  constructor
  · intro h buffer size hread
    by_contra hge
    refine h.noOverflow (bind_eq_error.mpr (.inr ⟨(some buffer, size), hread, ?_⟩))
    exact map_eq_error.mpr (if_neg hge)
  · intro h
    refine ⟨fun herr => ?_, fun text htext => readJsonText_some htext⟩
    rcases bind_eq_error.mp herr with hread | ⟨⟨buffer, size⟩, hread, hrest⟩
    · exact readFile_ne_overflow page f hread
    · cases buffer with
      | none => cases hrest
      | some buffer =>
        have hterm := map_eq_error.mp hrest
        rw [terminateText, if_pos (h buffer size hread)] at hterm
        cases hterm

/-- A file of `size` bytes with this content, that every call succeeds on. -/
def wholeFile (size : FileSize) (bytes : List UInt8) (h : bytes.length ≤ size.bytes.toNat) :
    InputFile :=
  { opens := true, stats := true, stSize := size, mallocOk := true, content := some bytes
    contentFits := fun bs hbs => by cases hbs; exact h }

/-- A file that is read as a whole leaves room for the terminator in its last page, or not. -/
theorem wholeFile_terminated_iff (page : PageSize) {size : FileSize}
    (h : bytes.length = size.bytes.toNat) :
    TextTerminated page (wholeFile size bytes (Nat.le_of_eq h)) ↔
      size.bytes.toNat % page.bytes.toNat ≠ 0 := by
  have hread : readFile page (wholeFile size bytes (Nat.le_of_eq h)) =
      .ok (some (paddedBuffer page size bytes), UInt64.ofNat bytes.length) :=
    readFile_ok rfl rfl rfl rfl
  rw [textTerminated_iff, hread, ← lt_pageAlign_iff page size.nonneg,
    ← length_paddedBuffer page (Nat.le_of_eq h), h, UInt64.ofNat_toNat]
  constructor
  · exact fun hall => hall _ _ rfl
  · intro hlt buffer n heq
    cases heq
    exact hlt

/-- **For a file of so many bytes the text is terminated inside its buffer, whatever the
    system answers, exactly if the bytes do not fill their last page.** -/
theorem json_text_terminated_iff (page : PageSize) (n : FileSize) :
    (∀ f : InputFile, f.stSize = n → TextTerminated page f) ↔
      n.bytes.toNat % page.bytes.toNat ≠ 0 := by
  constructor
  · intro h
    have hlen : (List.replicate n.bytes.toNat (0x20 : UInt8)).length = n.bytes.toNat :=
      List.length_replicate
    exact (wholeFile_terminated_iff page hlen).mp (h _ rfl)
  · intro hmod f hf
    refine (textTerminated_iff page f).mpr fun buffer size hread => ?_
    obtain ⟨bytes, hbytes, hbuffer, hsize⟩ := readFile_some hread
    have hfits := f.contentFits bytes hbytes
    rw [hbuffer, length_paddedBuffer page hfits, hsize]
    rw [hf] at hfits ⊢
    exact Nat.lt_of_le_of_lt hfits ((lt_pageAlign_iff page n.nonneg).mpr hmod)

/-- A file of one page. -/
def pageOfBlanks : FileSize := ⟨4096, by decide⟩

/-- The terminator of a configuration of 4096 blanks is stored behind its buffer. -/
theorem one_page_text_overflows :
    ¬ TextTerminated .fourKiB
      (wholeFile pageOfBlanks (List.replicate 4096 0x20) (Nat.le_of_eq List.length_replicate)) := by
  have hlen : (List.replicate 4096 (0x20 : UInt8)).length = pageOfBlanks.bytes.toNat :=
    List.length_replicate
  rw [wholeFile_terminated_iff .fourKiB hlen]
  decide

end HvisorTool
