import Bacchus.Device.KeyStore

/-!
# One key for a device

The call that generates a key flushes the directory before it returns. A call that finds the file
may find it before the flush. What it returns is then gone after a power loss.
-/

namespace Bacchus.Device

open List Function Option

theorem toList_cut (count : Nat) (content : String) :
    (cut count content).toList = content.toList.take count := String.toList_ofList

theorem cut_cut (first second : Nat) (content : String) :
    cut first (cut second content) = cut (min first second) content := by
  rw [cut, toList_cut, take_take, cut]

theorem length_encoded (key : Key) : key.encoded.toList.length = 2 * seedSize := by
  rw [String.length_toList, Key.encoded, Text.length_hexEncode, key.size]

theorem cut_encoded {key : Key} {count : Nat} (whole : 2 * seedSize ≤ count) :
    cut count key.encoded = key.encoded := by
  rw [cut, take_of_length_le (by rw [length_encoded]; exact whole), String.ofList_toList]

theorem isSpace_of_mem_encoded {key : Key} {char : Char} (member : char ∈ key.encoded.toList) :
    Netip.isSpace char = false := by
  have every : ∀ value < 16, Netip.isSpace (Text.hexDigit value) = false := by decide
  rw [Key.encoded, Text.hexEncode, String.toList_ofList, mem_flatMap] at member
  obtain ⟨_, _, digit⟩ := member
  simp only [Text.hexDigits, nil_append, cons_append, mem_cons, not_mem_nil, or_false] at digit
  rcases digit with rfl | rfl <;> exact every _ (Nat.mod_lt _ (by decide))

theorem trimSpace_cut_encoded (key : Key) (count : Nat) :
    Netip.trimSpace (cut count key.encoded) = cut count key.encoded := by
  refine Netip.trimSpace_eq_self fun char member => ?_
  rw [toList_cut] at member
  exact isSpace_of_mem_encoded (mem_of_mem_take member)

theorem parseKey_encoded (key : Key) : parseKey key.encoded = some key := by
  have trimmed := trimSpace_cut_encoded key (2 * seedSize)
  rw [cut_encoded le_rfl] at trimmed
  have decoded : Text.hexDecode (Netip.trimSpace key.encoded) = some key.seed := by
    rw [trimmed]
    exact Text.hexDecode_hexEncode key.seed
  simp [parseKey, decoded, key.size]

theorem parseKey_empty : parseKey "" = none := by decide

/-- A piece of a key is malformed. -/
theorem whole_of_parseKey {key found : Key} {count : Nat}
    (parsed : parseKey (cut count key.encoded) = some found) : 2 * seedSize ≤ count := by
  unfold parseKey at parsed
  rw [trimSpace_cut_encoded] at parsed
  split at parsed
  · cases parsed
  · next seed decoded =>
    split_ifs at parsed with size
    have length := Text.length_of_hexPairs decoded
    rw [toList_cut, length_take, length_encoded, size] at length
    omega

/-- What a call that has created the file knows to be in it. -/
def Point.expects : Point → Option String
  | .write _ => some ""
  | .sync key | .close key | .syncDir key => some key.encoded
  | _ => none

/-- The ways an operation moves a call. -/
inductive Moved (directory : Directory) (io : StepIo) : Point → Directory → Progress → Prop where
  | failed {point error} : Moved directory io point directory (.returned (.error error))
  /-- One of the operations before the file is created. -/
  | forward {point next} (before : next.expects = none) :
      Moved directory io point directory (.next next)
  | loaded {file key} (reads : io.fails = false) (there : directory.key = some file)
      (parsed : parseKey file.content = some key) :
      Moved directory io .read directory (.returned (.ok key))
  | created {key} (absent : directory.key = none) :
      Moved directory io (.create key) { directory with key := some {} } (.next (.write key))
  | cutShort {key} :
      Moved directory io (.write key)
        (directory.update fun file => { file with content := cut io.written key.encoded })
        (.returned (.error .write))
  | wrote {key} :
      Moved directory io (.write key)
        (directory.update fun file => { file with content := key.encoded }) (.next (.sync key))
  | synced {key} :
      Moved directory io (.sync key) (directory.update fun file => { file with synced := true })
        (.next (.close key))
  | closed {key} : Moved directory io (.close key) directory (.next (.syncDir key))
  | published {key} : Moved directory io (.syncDir key) directory.syncDir (.returned (.ok key))

theorem moved_of_step {directory next : Directory} {io : StepIo} {point : Point}
    {progress : Progress} (stepped : point.step directory io = (next, progress)) :
    Moved directory io point next progress := by
  obtain ⟨rfl, rfl⟩ := Prod.ext_iff.mp stepped
  cases point <;> simp only [Point.step]
  case read =>
    split
    · exact .failed
    · next reads =>
      split
      · exact .forward rfl
      · next file there =>
        split
        · exact .failed
        · next key parsed => exact .loaded (Bool.eq_false_iff.mpr reads) there parsed
  case stat =>
    split_ifs
    · exact .failed
    · exact .failed
    · exact .forward rfl
  case generate | createDirectory key =>
    split_ifs
    · exact .failed
    · exact .forward rfl
  case create key =>
    split_ifs with fails there
    · exact .failed
    · exact .failed
    · exact .created (not_isSome_iff_eq_none.mp there)
  case write key =>
    split_ifs
    · exact .cutShort
    · exact .wrote
  case sync key =>
    split_ifs
    · exact .failed
    · exact .synced
  case close key =>
    split_ifs
    · exact .failed
    · exact .closed
  case syncDir key =>
    split_ifs
    · exact .failed
    · exact .published

/-- What a call knows to be in the file it has created. -/
def Store.expects (store : Store) (process : ProcessId) : Option String :=
  (store.calls process).bind Point.expects

structure Store.Sound (store : Store) : Prop where
  /-- The file of a call that has created it is there, as the call left it. -/
  holds : ∀ {process content}, store.expects process = some content →
    ∃ file, store.directory.key = some file ∧ file.content = content
  alone : ∀ {first second left right}, store.expects first = some left →
    store.expects second = some right → first = second
  pieces : ∀ {file}, store.directory.key = some file → file.synced = false →
    ∃ (key : Key) (count : Nat), file.content = cut count key.encoded
  /-- Nothing has been returned while a key is still to be written. -/
  unwritten : ∀ {process key}, store.calls process = some (.write key) → store.returned = []
  /-- A key that was returned is on disk, and no other key will be read there. -/
  kept : ∀ {key}, key ∈ store.returned → ∃ file, store.directory.key = some file ∧
    file.flushed ∧ ∀ {other}, parseKey file.content = some other → other = key
  agree : ∀ {first second}, first ∈ store.returned → second ∈ store.returned → first = second

/-- A call reads a key whose file the directory has not been flushed for. -/
def Store.readsUnflushed (store : Store) : StoreLabel → Bool
  | .step process io =>
    match store.calls process, store.directory.key with
    | some .read, some file => !io.fails && (parseKey file.content).isSome && !file.flushed
    | _, _ => false
  | _ => false

/-- A call that reads a key finds the directory flushed since the file's creation. -/
def ReadsFlushed (store : Store) (label : StoreLabel) : Prop := store.readsUnflushed label = false

instance (store : Store) : DecidablePred (ReadsFlushed store) :=
  fun _ => inferInstanceAs (Decidable (_ = _))

namespace Store.Sound

variable {store : Store} {process : ProcessId}

/-- As long as nothing has been returned, only the file and its writers matter. -/
theorem silent (nothing : store.returned = [])
    (holds : ∀ {process content}, store.expects process = some content →
      ∃ file, store.directory.key = some file ∧ file.content = content)
    (alone : ∀ {first second left right}, store.expects first = some left →
      store.expects second = some right → first = second)
    (pieces : ∀ {file}, store.directory.key = some file → file.synced = false →
      ∃ (key : Key) (count : Nat), file.content = cut count key.encoded) : store.Sound where
  holds := holds
  alone := alone
  pieces := pieces
  unwritten _ := nothing
  kept member := by rw [nothing] at member; cases member
  agree member := by rw [nothing] at member; cases member

/-- One call has created the file, and nothing has been returned. -/
theorem sole (process : ProcessId) (nothing : store.returned = []) {file : KeyFile} {key : Key}
    {count : Nat}
    (there : store.directory.key = some file) (piece : file.content = cut count key.encoded)
    (holder : ∀ {other content}, store.expects other = some content →
      other = process ∧ content = file.content) : store.Sound := by
  refine silent nothing (fun expected => ?_) (fun first second => ?_) fun found _ => ?_
  · exact ⟨file, there, (holder expected).2.symm⟩
  · exact (holder first).1.trans (holder second).1.symm
  · rw [there] at found
    cases found
    exact ⟨key, count, piece⟩

theorem initially (valid : deviceStore.initial store) : store.Sound := by
  obtain ⟨idle, nothing, whole⟩ := valid
  have nobody : ∀ {process content}, store.expects process ≠ some content := by
    intro process content
    rw [Store.expects, idle process]
    nofun
  refine silent nothing (fun expected => absurd expected nobody)
    (fun expected => absurd expected nobody) fun there unsynced => ?_
  rw [whole _ there] at unsynced
  cases unsynced

variable (sound : store.Sound)
include sound

/-- A call moves on, or ends, and knows no more about the file than before. -/
theorem move {moved : Option Point}
    (known : ∀ {content}, moved.bind Point.expects = some content →
      store.expects process = some content)
    (writes : ∀ key, moved ≠ some (.write key)) :
    { store with calls := update store.calls process moved }.Sound := by
  have before : ∀ {other content},
      ({ store with calls := update store.calls process moved } : Store).expects other =
        some content → store.expects other = some content := by
    intro other content expected
    by_cases here : other = process
    · subst here
      apply known
      simpa [Store.expects] using expected
    · simpa [Store.expects, here] using expected
  refine ⟨fun expected => sound.holds (before expected),
    fun first second => sound.alone (before first) (before second), sound.pieces, ?_, sound.kept,
    sound.agree⟩
  intro other key writing
  by_cases here : other = process
  · subst here
    simp only [update_self] at writing
    exact absurd writing (writes key)
  · simp only [update_of_ne here] at writing
    exact sound.unwritten writing

theorem flush {directory : Directory} {change : KeyFile → KeyFile}
    (changed : directory.key = store.directory.key.map change)
    (content : ∀ file, (change file).content = file.content)
    (flushed : ∀ file, file.flushed → (change file).flushed)
    (synced : ∀ file, (change file).synced = false → file.synced = false) :
    { store with directory }.Sound := by
  refine ⟨fun expected => ?_, sound.alone, fun {file} there unsynced => ?_, sound.unwritten,
    fun member => ?_, sound.agree⟩
  · obtain ⟨file, there, same⟩ := sound.holds expected
    refine ⟨change file, ?_, (content file).trans same⟩
    simp only [changed, there, map_some]
  · simp only [changed, map_eq_some_iff] at there
    obtain ⟨old, there, rfl⟩ := there
    rw [content]
    exact sound.pieces there (synced old unsynced)
  · obtain ⟨file, there, onDisk, only⟩ := sound.kept member
    refine ⟨change file, ?_, flushed file onDisk, fun parsed => only (content file ▸ parsed)⟩
    simp only [changed, there, map_some]

theorem deliver {file : KeyFile} {key : Key}
    (there : store.directory.key = some file) (onDisk : file.flushed)
    (parsed : parseKey file.content = some key) :
    { store with returned := key :: store.returned }.Sound := by
  have same : ∀ {other}, other ∈ key :: store.returned → other = key := by
    intro other member
    rcases mem_cons.mp member with rfl | earlier
    · rfl
    · obtain ⟨kept, found, _, only⟩ := sound.kept earlier
      rw [there] at found
      cases found
      exact (only parsed).symm
  refine ⟨sound.holds, sound.alone, sound.pieces, fun {process writer} writing => ?_,
    fun {other} member => ?_, fun first second => (same first).trans (same second).symm⟩
  · -- A file that is still to be written is empty, and no key is in it.
    have expected : store.expects process = some "" := by
      rw [Store.expects, writing]
      rfl
    obtain ⟨_, found, content⟩ := sound.holds expected
    rw [there] at found
    cases found
    rw [content, parseKey_empty] at parsed
    cases parsed
  · refine ⟨file, there, onDisk, fun found => ?_⟩
    rw [same member]
    exact some.inj (found.symm.trans parsed)

/-- The exclusive create succeeds where there is no file; then nothing has been returned. -/
theorem create (absent : store.directory.key = none) (key : Key) :
    Store.Sound { store with
      directory := { store.directory with key := some {} }
      calls := update store.calls process (some (.write key)) } := by
  have nothing : store.returned = [] := by
    refine eq_nil_iff_forall_not_mem.mpr fun key member => ?_
    obtain ⟨file, there, _⟩ := sound.kept member
    rw [absent] at there
    cases there
  refine @sole _ process nothing {} key 0 rfl rfl fun {other content} expected => ?_
  by_cases here : other = process
  · subst here
    simp only [Store.expects, update_self] at expected
    exact ⟨rfl, (some.inj expected).symm⟩
  · simp only [Store.expects, update_of_ne here] at expected
    obtain ⟨file, there, _⟩ := sound.holds expected
    rw [absent] at there
    cases there

theorem write {key : Key} (writing : store.calls process = some (.write key))
    {moved : Option Point} {content : String} {count : Nat}
    (written : content = cut count key.encoded)
    (known : ∀ {expected}, moved.bind Point.expects = some expected → expected = content) :
    Store.Sound { store with
      directory := store.directory.update fun file => { file with content }
      calls := update store.calls process moved } := by
  have expected : store.expects process = some "" := by
    rw [Store.expects, writing]
    rfl
  obtain ⟨file, there, _⟩ := sound.holds expected
  have after : (store.directory.update fun file => { file with content }).key =
      some { file with content } := by
    simp only [Directory.update, there, map_some]
  refine sole process (sound.unwritten writing) after written fun {other found} holding => ?_
  by_cases here : other = process
  · subst here
    simp only [Store.expects, update_self] at holding
    exact ⟨rfl, known holding⟩
  · simp only [Store.expects, update_of_ne here] at holding
    exact absurd (sound.alone holding expected) here

/-- What was returned was flushed, and outlives a power loss. Other content may become shorter, but
no other key. -/
theorem lose (loss : Loss) :
    Store.Sound { store with
      directory := store.directory.afterLoss loss
      calls := fun _ => none } := by
  refine ⟨nofun, nofun, fun {file} there unsynced => ?_, nofun, fun {key} member => ?_, sound.agree⟩
  · simp only [Directory.afterLoss, bind_eq_some_iff, ite_none_left_eq_some] at there
    obtain ⟨_, _, _, same⟩ := there
    cases same
    cases unsynced
  · obtain ⟨file, there, onDisk, only⟩ := sound.kept member
    refine ⟨_, by simp [Directory.afterLoss, there, onDisk]; rfl, rfl,
      fun {other} parsed => only ?_⟩
    cases synced : file.synced with
    | true => simpa [synced] using parsed
    | false =>
      obtain ⟨_, _, piece⟩ := sound.pieces there synced
      simp only [synced, Bool.false_eq_true, if_false, piece, cut_cut] at parsed
      have whole := whole_of_parseKey parsed
      rw [piece, cut_encoded (by omega)]
      rw [cut_encoded whole] at parsed
      exact parsed

theorem operate {io : StepIo} {point : Point} {directory : Directory} {progress : Progress}
    (reads : ReadsFlushed store (.step process io)) (here : store.calls process = some point)
    (moved : Moved store.directory io point directory progress) :
    match progress with
    | .next point => Store.Sound { store with
        directory
        calls := update store.calls process (some point) }
    | .returned result => Store.Sound {
        directory
        calls := update store.calls process none
        returned := result.toOption.toList ++ store.returned } := by
  have expected : store.expects process = point.expects := by rw [Store.expects, here]; rfl
  cases moved with
  | failed => exact sound.move nofun nofun
  | forward before =>
    refine sound.move (fun known => ?_) fun key writes => ?_
    · rw [bind_some, before] at known
      cases known
    · cases writes
      cases before
  | @loaded file key works there parsed =>
    have onDisk : file.flushed := by
      simpa [ReadsFlushed, Store.readsUnflushed, here, there, works, parsed] using reads
    exact (sound.deliver there onDisk parsed).move nofun nofun
  | created absent => exact sound.create absent _
  | cutShort => exact sound.write here rfl nofun
  | @wrote key =>
    refine sound.write here (cut_encoded le_rfl).symm fun known => ?_
    exact (some.inj known).symm
  | @synced key =>
    let change (file : KeyFile) : KeyFile := { file with synced := true }
    have flushed := @flush store sound (store.directory.update change) change rfl
      (fun _ => rfl) (fun _ => id) fun _ unsynced => absurd unsynced Bool.noConfusion
    exact @move _ process flushed (some (.close key)) (fun known => expected.trans known) nofun
  | @closed key =>
    exact @move _ process sound (some (.syncDir key)) (fun known => expected.trans known) nofun
  | @published key =>
    obtain ⟨file, there, content⟩ := sound.holds expected
    let change (file : KeyFile) : KeyFile := { file with flushed := true }
    have flushed := @flush store sound store.directory.syncDir change rfl (fun _ => rfl)
      (fun _ _ => rfl) fun _ => id
    have after : store.directory.syncDir.key = some (change file) := by
      simp only [Directory.syncDir, there, map_some, change]
    have parsed : parseKey file.content = some key := by
      rw [content]
      exact parseKey_encoded key
    exact (flushed.deliver after rfl parsed).move nofun nofun

theorem step {label : StoreLabel} {next : Store}
    (reads : ReadsFlushed store label) (moves : deviceStore.step store label = some next) :
    next.Sound := by
  cases label with
  | call =>
    simp only [deviceStore] at moves
    split at moves
    · cases moves
    · cases moves
      exact sound.move nofun nofun
  | step process io =>
    simp only [deviceStore] at moves
    split at moves
    · cases moves
    · next point here =>
      rcases stepped : point.step store.directory io with ⟨directory, _ | _⟩
      all_goals
        rw [stepped] at moves
        cases moves
        exact sound.operate reads here (moved_of_step stepped)
  | enrol =>
    cases moves
    exact sound.flush (map_id_apply ..).symm (fun _ => rfl) (fun _ => id) fun _ => id
  | powerLoss loss =>
    cases moves
    exact sound.lose loss

omit sound

end Store.Sound

/-- If no call reads a key whose file is not flushed, all calls return the same key. -/
theorem returned_keys_agree {labels : List StoreLabel} {store : Store}
    (runs : deviceStore.Runs ReadsFlushed labels store) {first second : Key}
    (one : first ∈ store.returned) (other : second ∈ store.returned) : first = second := by
  have sound : store.Sound := runs.invariant .initially fun sound => sound.step
  exact sound.agree one other

def firstKey : Key := ⟨replicate 32 1, by decide⟩

def secondKey : Key := ⟨replicate 32 2, by decide⟩

/-- A call all of whose operations succeed, up to the flush of the directory. -/
def generates (process : ProcessId) (key : Key) (flushFails : Bool) : List StoreLabel :=
  .call process :: replicate 8 (.step process { drawn := key }) ++
    [.step process { drawn := key, fails := flushFails }]

/-- A call that finds the file. -/
def loads (process : ProcessId) : List StoreLabel :=
  [.call process, .step process { drawn := firstKey }]

theorem initial_empty : deviceStore.initial {} := ⟨fun _ => rfl, rfl, nofun⟩

/-- After the flush a second process loads the first one's key, also after a power loss. -/
theorem flushed_key_is_loaded :
    ∃ store first second, deviceStore.Runs ReadsFlushed
        (generates 0 firstKey false ++ [.powerLoss {}] ++ loads 1) store ∧
      store.returned = [first, second] ∧ first = second := by
  obtain ⟨store, runs, both⟩ : ∃ store, deviceStore.Runs ReadsFlushed
      (generates 0 firstKey false ++ [.powerLoss {}] ++ loads 1) store ∧
      store.returned = [firstKey, firstKey] := by
    refine Machine.exists_runs initial_empty ?_ ?_ <;> decide +kernel
  exact ⟨store, firstKey, firstKey, runs, both,
    returned_keys_agree runs (both ▸ .head _) (both ▸ .head _)⟩

/-- The flush of the directory fails, so the call that has generated the key reports an error; the
next call returns that key. After a power loss, the third generates another. -/
theorem unflushed_key_is_replaced :
    ∃ labels store, deviceStore.Runs Machine.free labels store ∧
      store.returned = [secondKey, firstKey] ∧ firstKey ≠ secondKey := by
  refine ⟨generates 0 firstKey true ++ loads 1 ++ [.powerLoss {}] ++
    generates 2 secondKey false, ?_⟩
  exact Machine.exists_runs initial_empty (Machine.meets_free _ _) (by decide +kernel)

end Bacchus.Device
