import Stencil.Proofs.Cache.Directory
import Stencil.Proofs.Files.Looks

/-! What a look at a key comes to for every content of the file of its entry. Bytes that are no text, texts
that are not JSON, and JSON that is no entry are no render, and are no failure. There are two holes: JSON too
deep to be read, and an entry with a render of which the expiry is no time. -/
namespace Stencil

open Act (run_bind_ok run_bind_error run_get_bind)

namespace FileTree

variable {t t' : FileTree} {budget : Nat} {here todo cwd place : List String} {p : Path}

/-- Whether the directories, links and files of a tree stand in another one, with contents of their own. -/
structure KeepsKinds (t t' : FileTree) : Prop where
  roads : KeepsRoads t t'
  files : ∀ q content stamp serial, t.get? q = some (.file content stamp serial) →
    ∃ content stamp serial, t'.get? q = some (.file content stamp serial)

theorem KeepsKinds.refl (t : FileTree) : KeepsKinds t t :=
  ⟨⟨fun _ _ _ h => h, rfl⟩, fun _ content stamp serial h => ⟨content, stamp, serial, h⟩⟩

/-- A file that is written to stays a file. -/
theorem keepsKinds_write {content : List UInt8} {stamp serial : Nat}
    (h : t.get? place = some (.file content stamp serial)) (content' : List UInt8) (serial' : Nat) :
    KeepsKinds t (t.write place content' serial') := by
  have hplace : place ≠ [] := by
    rintro rfl
    cases h
  constructor
  · refine ⟨fun q e he hq => ?_, rfl⟩
    rw [get?_write hplace, if_neg, hq]
    rintro rfl
    rw [h] at hq
    cases hq
    cases he
  · intro q content stamp serial hq
    rw [get?_write hplace]
    split
    · exact ⟨content', t.stamp, serial', rfl⟩
    · exact ⟨content, stamp, serial, hq⟩

/-- Where a walk ends at a file, one that does not follow a last link ends at that file or at a link to it. -/
theorem KeepsKinds.exists_walk (hkinds : KeepsKinds t t') {content : List UInt8} {stamp serial : Nat}
    (h : t.walk true budget here todo = .ok (place, some (.file content stamp serial))) :
    ∃ place' e, t'.walk false budget here todo = .ok (place', some e) ∧ e ≠ .directory := by
  have hopen' {here : List String} (hopen : here ∉ t.locked) : here ∉ t'.locked := hkinds.roads.locked ▸ hopen
  fun_induction walk t true budget here todo with
  | case1 budget here =>
    rw [Except.ok.injEq, Prod.mk.injEq] at h
    obtain ⟨content', stamp', serial', hhere⟩ := hkinds.files _ _ _ _ h.2
    exact ⟨here, .file content' stamp' serial', by rw [walk, hhere], Entry.noConfusion⟩
  | case3 budget here rest hopen ih => rw [walk, if_neg (hopen' hopen), if_pos rfl]; exact ih h
  | case4 budget here rest hopen hdot ih =>
    rw [walk, if_neg (hopen' hopen), if_neg hdot, if_pos rfl]
    exact ih h
  | case8 budget here name rest hopen hdot hup hsize next hentry ih =>
    rw [walk_directory ⟨hopen' hopen, hdot, hup, Nat.not_lt.mp hsize⟩ (hkinds.roads.roads _ _ rfl hentry)]
    exact ih h
  | case9 budget here name hopen hdot hup hsize next content' stamp' serial' hentry =>
    obtain ⟨content', stamp', serial', hnext⟩ := hkinds.files _ _ _ _ hentry
    exact ⟨_, _, walk_file ⟨hopen' hopen, hdot, hup, Nat.not_lt.mp hsize⟩ hnext, Entry.noConfusion⟩
  | case13 here name rest hopen hdot hup hsize next target hentry hgo budget ih =>
    have hname : t'.Admits here name := ⟨hopen' hopen, hdot, hup, Nat.not_lt.mp hsize⟩
    have hlink := hkinds.roads.roads _ _ rfl hentry
    by_cases hrest : rest = []
    · subst hrest
      exact ⟨_, _, walk_last_link hname hlink, Entry.noConfusion⟩
    · rw [walk_link hname hlink fun hstop => hrest hstop.1]
      exact ih h
  | case11 budget here name rest hopen hdot hup hsize next target hentry hstop => cases hstop.2
  | _ => simp at h

/-- What leads to a file can be taken away. -/
theorem KeepsKinds.exists_unlink (hkinds : KeepsKinds t t') {content : List UInt8} {stamp serial : Nat}
    (h : t.find true cwd p = .ok (place, some (.file content stamp serial))) :
    ∃ t'', t'.unlink cwd p = .ok t'' := by
  obtain ⟨hzero, hsize, hwalk⟩ := find_of_ok h
  obtain ⟨place', e, hwalk, hne⟩ := hkinds.exists_walk hwalk
  rw [unlink, find_eq_walk hzero hsize, hwalk]
  cases e with
  | directory => exact absurd rfl hne
  | file content stamp serial => exact ⟨_, rfl⟩
  | link target => exact ⟨_, rfl⟩

end FileTree

/-- Logging may write to a file, and leaves everything standing where it stands. -/
theorem Session.keepsKinds_log (s : Session) (r : Log.Record) : FileTree.KeepsKinds s.tree (s.log r).tree := by
  unfold log
  dsimp only
  split
  · split
    · exact .refl _
    · unfold write
      dsimp only
      split
      · exact .refl _
      · unfold appendTo
        split
        · next hfile =>
          split
          · exact FileTree.keepsKinds_write hfile _ _
          · exact .refl _
        · exact .refl _
  · exact .refl _

namespace Files

/-- The value that bytes hold as JSON. -/
def jsonOf (bytes : List UInt8) : Except Error Value :=
  match Text.Utf8.decode bytes with
  | .ok text => parseJson (Text.Utf8.foldNewlines text)
  | .error fault => .error (.notUtf8 fault)

theorem run_readLines {s : Session} {p : Path} {place : List String} {bytes : List UInt8} {stamp serial : Nat}
    (hfind : s.tree.find true s.cwd p = .ok (place, some (.file bytes stamp serial))) :
    readLines p s = match Text.Utf8.decode bytes with
      | .ok text => .ok (Text.Utf8.foldNewlines text) s
      | .error fault => .error (.notUtf8 fault) s := by
  have hbytes : readBytes p s = .ok bytes s := run_look (by rw [FileTree.read, hfind])
  unfold readLines
  rw [run_bind_ok hbytes]
  cases Text.Utf8.decode bytes <;> rfl

theorem run_readJson? {s : Session} {p : Path} {place : List String} {bytes : List UInt8} {stamp serial : Nat}
    (hfind : s.tree.find true s.cwd p = .ok (place, some (.file bytes stamp serial))) :
    readJson? p s = match jsonOf bytes with
      | .ok v => .ok (some v) s
      | .error e => .error e s := by
  have hlines := run_readLines hfind
  unfold readJson? jsonOf
  rw [run_bind_ok (run_hasEntry (FileTree.hasEntry_of_find hfind)), Option.isSome_some, if_pos rfl]
  cases hdecode : Text.Utf8.decode bytes with
  | error fault =>
    rw [hdecode] at hlines
    exact run_bind_error hlines
  | ok text =>
    rw [hdecode] at hlines
    rw [run_bind_ok hlines]
    dsimp only
    cases parseJson (Text.Utf8.foldNewlines text) <;> rfl

end Files

namespace Value

/-- Whether a value can be taken as a time. -/
def isTime : Value → Bool
  | .bool _ | .float _ => true
  | .int n => (Number.floatOfInt? n).isSome
  | .str s => (Number.floatOfText? s.toList).isSome
  | .scalar (.bytes b) => (Number.floatOfText? (textOfBytes b)).isSome
  | _ => false

theorem isTime_eq_true_iff {v : Value} : v.isTime = true ↔ ∃ t, v.toFloat = .ok t := by
  cases v with
  | scalar c =>
    cases c with
    | int n => cases h : Number.floatOfInt? n <;> simp [isTime, toFloat, h]
    | str s => cases h : Number.floatOfText? s.toList <;> simp [isTime, toFloat, readFloat, h]
    | bytes b => cases h : Number.floatOfText? (textOfBytes b) <;> simp [isTime, toFloat, readFloat, h]
    | _ => simp [isTime, toFloat]
  | _ => simp [isTime, toFloat]

end Value

namespace Cache.Directory

variable {s : Session} {directory : Path} {key value : String} {place : List String} {bytes : List UInt8}
  {stamp serial : Nat}

/-- Whether bytes are an entry of a render, with an expiry. -/
def HoldsEntry (bytes : List UInt8) (value : String) (expires : Value) : Prop :=
  ∃ v, Files.jsonOf bytes = .ok v ∧ entryParts? v = some (value, expires)

/-- Whether bytes are JSON that is too deep to be read, or an entry of which the expiry is no time. -/
inductive IsHole (bytes : List UInt8) : Prop
  | deep (h : Files.jsonOf bytes = .error .nesting)
  | timeless {value : String} {expires : Value} (h : HoldsEntry bytes value expires)
    (hthere : expires ≠ .null) (htime : expires.isTime = false)

/-- Whether a render with an expiry lives at a time. -/
def isLive (now : Float) : Value → Bool
  | .scalar .null => true
  | expires =>
    match expires.toFloat with
    | .ok t => !decide (t ≤ now)
    | .error _ => false

/-- The render that lives in a file at a time. -/
def liveIn? (now : Float) (bytes : List UInt8) : Option String :=
  match Files.jsonOf bytes with
  | .ok v => (entryParts? v).bind fun parts => if isLive now parts.2 then some parts.1 else none
  | .error _ => none

theorem isHole_iff_of_error {e : Error} (h : Files.jsonOf bytes = .error e) : IsHole bytes ↔ e = .nesting := by
  constructor
  · rintro (hdeep | ⟨⟨v, hv, -⟩, -, -⟩)
    · exact Except.error.inj (h.symm.trans hdeep)
    · cases h.symm.trans hv
  · rintro rfl
    exact .deep h

theorem isHole_iff_of_ok {v : Value} (h : Files.jsonOf bytes = .ok v) :
    IsHole bytes ↔ ∃ parts, entryParts? v = some parts ∧ parts.2 ≠ .null ∧ parts.2.isTime = false := by
  constructor
  · rintro (hdeep | ⟨⟨v', hv', hparts⟩, hthere, htime⟩)
    · cases h.symm.trans hdeep
    · obtain rfl : v = v' := Except.ok.inj (h.symm.trans hv')
      exact ⟨_, hparts, hthere, htime⟩
  · rintro ⟨⟨value, expires⟩, hparts, hthere, htime⟩
    exact .timeless ⟨v, h, hparts⟩ hthere htime

theorem liveIn?_of_ok {v : Value} (h : Files.jsonOf bytes = .ok v) (now : Float) :
    liveIn? now bytes =
      (entryParts? v).bind fun parts => if isLive now parts.2 then some parts.1 else none := by
  rw [liveIn?, h]

/-- Bytes that are no JSON are damage, unless they are too deep. -/
theorem isDamage_of_jsonOf {e : Error} (h : Files.jsonOf bytes = .error e) : isDamage e = true ∨ e = .nesting := by
  unfold Files.jsonOf at h
  split at h
  · unfold Files.parseJson at h
    split at h
    all_goals cases h
    · exact .inl rfl
    · exact .inl rfl
    · exact .inr rfl
  · cases h
    exact .inl rfl

/-- The file of a key that is not JSON is taken away, and the key has no entry. -/
theorem run_readEntry_damaged {p : Path}
    (hfile : s.tree.find true s.cwd p = .ok (place, some (.file bytes stamp serial))) {e : Error}
    (hjson : Files.jsonOf bytes = .error e) (hdamage : isDamage e = true) :
    ∃ t, readEntry p s = .ok none t := by
  have hread := Files.run_readJson? hfile
  rw [hjson] at hread
  let r : Log.Record :=
    ⟨.warning, "modx.core.cache.stores", s!"Discarding corrupt cache entry {p.text}"⟩
  obtain ⟨tree, hunlink⟩ := (s.keepsKinds_log r).exists_unlink hfile
  have hcwd : (s.log r).cwd = s.cwd := by
    obtain ⟨records, stderr, tree, hlog⟩ := s.exists_log_eq r
    rw [hlog]
  rw [← hcwd] at hunlink
  have hunlink : Files.unlink p (s.log r) = .ok () { s.log r with tree } := Files.run_change hunlink
  refine ⟨{ s.log r with tree }, ?_⟩
  unfold readEntry
  rw [run_bind_ok (Act.run_attempt_error hread)]
  dsimp only
  rw [if_pos hdamage, run_bind_ok (show Act.log r s = .ok () (s.log r) from rfl),
    run_bind_ok hunlink]
  rfl

theorem run_readEntry_deep {p : Path}
    (hfile : s.tree.find true s.cwd p = .ok (place, some (.file bytes stamp serial)))
    (hjson : Files.jsonOf bytes = .error .nesting) : readEntry p s = .error .nesting s := by
  have hread := Files.run_readJson? hfile
  rw [hjson] at hread
  unfold readEntry
  rw [run_bind_ok (Act.run_attempt_error hread)]
  rfl

/-- Where there is no entry, nothing is found. -/
theorem outcome_read_none {t : Session} {v : Option Value}
    (h : readEntry (entryPath directory key) s = .ok v t) (hparts : v.bind entryParts? = none) :
    (read directory key).outcome s = .ok none := by
  unfold read
  rw [Act.outcome_bind, h]
  dsimp only
  rw [hparts]
  rfl

/-- A render without an expiry is found. -/
theorem outcome_read_lasting {v : Value}
    (h : readEntry (entryPath directory key) s = .ok (some v) s) (hparts : entryParts? v = some (value, .null)) :
    (read directory key).outcome s = .ok (some value) := by
  unfold read
  rw [Act.outcome_bind, h]
  dsimp only
  rw [Option.bind_some, hparts]
  rfl

/-- A render with an expiry is found before that time; from then on its file can be taken away. -/
theorem outcome_read_expiring {v expires : Value}
    (hfile : s.tree.find true s.cwd (entryPath directory key) = .ok (place, some (.file bytes stamp serial)))
    (h : readEntry (entryPath directory key) s = .ok (some v) s)
    (hparts : entryParts? v = some (value, expires)) (hthere : expires ≠ .null) :
    (read directory key).outcome s =
      expires.toFloat.map fun _ => if isLive s.now expires then some value else none := by
  unfold read
  rw [Act.outcome_bind, h]
  dsimp only
  rw [Option.bind_some, hparts]
  split
  · next heq => cases heq
  · next heq =>
    cases heq
    exact absurd rfl hthere
  · next heq =>
    cases heq
    cases htime : expires.toFloat with
    | error e => rfl
    | ok t =>
      have hlive : isLive s.now expires = !decide (t ≤ s.now) := by
        unfold isLive
        split
        · exact absurd rfl hthere
        · rw [htime]
      change (if decide (t ≤ s.now) = true then do
          Files.unlink (entryPath directory key)
          pure none
        else pure (some value) : Act (Option String)).outcome s = _
      rw [Except.map, hlive]
      cases decide (t ≤ s.now) with
      | true =>
        obtain ⟨tree, hunlink⟩ := (FileTree.KeepsKinds.refl s.tree).exists_unlink hfile
        have hunlink : Files.unlink (entryPath directory key) s = .ok () { s with tree } :=
          Files.run_change hunlink
        rw [if_pos rfl, Act.outcome_bind, hunlink]
        rfl
      | false => rfl

/-- At an entry a look fails if the expiry is no time, and only then. -/
theorem outcome_read_of_parts {v expires : Value}
    (hfile : s.tree.find true s.cwd (entryPath directory key) = .ok (place, some (.file bytes stamp serial)))
    (h : readEntry (entryPath directory key) s = .ok (some v) s)
    (hparts : entryParts? v = some (value, expires)) :
    (expires ≠ .null ∧ expires.isTime = false → ∃ e, (read directory key).outcome s = .error e) ∧
      (¬(expires ≠ .null ∧ expires.isTime = false) →
        (read directory key).outcome s = .ok (if isLive s.now expires then some value else none)) := by
  by_cases hthere : expires = .null
  · subst hthere
    exact ⟨fun hno => absurd rfl hno.1, fun _ => outcome_read_lasting h hparts⟩
  · rw [outcome_read_expiring hfile h hparts hthere]
    cases ht : expires.toFloat with
    | ok t =>
      have htime : expires.isTime = true := Value.isTime_eq_true_iff.mpr ⟨t, ht⟩
      refine ⟨fun hno => ?_, fun _ => rfl⟩
      cases htime.symm.trans hno.2
    | error e =>
      have htime : expires.isTime = false := by
        rw [← Bool.not_eq_true, Value.isTime_eq_true_iff, ht]
        rintro ⟨t, ht⟩
        cases ht
      exact ⟨fun _ => ⟨e, rfl⟩, fun hno => absurd ⟨hthere, htime⟩ hno⟩

/-- A look at a file fails in the two holes alone. For every other content it finds what lives in the file. -/
theorem outcome_read_of_file
    (hfile : s.tree.find true s.cwd (entryPath directory key) = .ok (place, some (.file bytes stamp serial))) :
    (IsHole bytes → ∃ e, (read directory key).outcome s = .error e) ∧
      (¬IsHole bytes → (read directory key).outcome s = .ok (liveIn? s.now bytes)) := by
  have hread := Files.run_readJson? hfile
  cases hjson : Files.jsonOf bytes with
  | error e =>
    have hlive : liveIn? s.now bytes = none := by rw [liveIn?, hjson]
    rw [isHole_iff_of_error hjson, hlive]
    rcases isDamage_of_jsonOf hjson with hdamage | rfl
    · obtain ⟨t, hnone⟩ := run_readEntry_damaged hfile hjson hdamage
      refine ⟨?_, fun _ => outcome_read_none hnone rfl⟩
      rintro rfl
      cases hdamage
    · refine ⟨fun _ => ⟨.nesting, ?_⟩, fun hne => absurd rfl hne⟩
      unfold read
      rw [Act.outcome_bind, run_readEntry_deep hfile hjson]
  | ok v =>
    rw [hjson] at hread
    have hentry : readEntry (entryPath directory key) s = .ok (some v) s := run_readEntry hread
    rw [isHole_iff_of_ok hjson, liveIn?_of_ok hjson]
    cases hparts : entryParts? v with
    | none =>
      refine ⟨?_, fun _ => outcome_read_none hentry hparts⟩
      rintro ⟨parts, hsome, -⟩
      cases hsome
    | some parts =>
      obtain ⟨value, expires⟩ := parts
      simpa using outcome_read_of_parts hfile hentry hparts

/-! ### A cut file, and a list for an expiry -/

/-- A directory with the file of the entry of one key. -/
def cacheDirectory : Path := ⟨"", ["cache"]⟩

/-- A session in which that file holds a text. -/
def holding (text : List Char) : Session where
  tree :=
    { entries :=
        [(["cache"], .directory), (["cache", "k.cache.json"], .file (Text.Utf8.encode text) 1 1)]
      stamp := 2 }

theorem find_holding (text : List Char) :
    (holding text).tree.find true (holding text).cwd (entryPath cacheDirectory "k") =
      .ok (["cache", "k.cache.json"], some (.file (Text.Utf8.encode text) 1 1)) := by
  have hpath : entryPath cacheDirectory "k" = ⟨"", ["cache", "k.cache.json"]⟩ := by decide +kernel
  rw [hpath, FileTree.find, if_neg (by decide +kernel), if_neg (by decide +kernel)]
  refine (FileTree.walk_directory ?_ rfl).trans (FileTree.walk_file ?_ rfl)
  · exact ⟨List.not_mem_nil, by decide, by decide, by decide +kernel⟩
  · exact ⟨List.not_mem_nil, by decide, by decide, by decide +kernel⟩

/-- The text of an entry up to the middle. -/
def cutText : List Char := "\x7b\"value\": \"x\", ".toList

/-- The text of an entry with a list where the expiry should be. -/
def listedText : List Char := "\x7b\"value\": \"x\", \"expires_at\": []\x7d".toList

/-- Whether a text was found to be no JSON. -/
def isNotJson : Except Error Value → Bool
  | .error .notJson => true
  | _ => false

/-- Whether a text was read as an entry with a list where the expiry should be. -/
def isListed : Except Error Value → Bool
  | .ok (.dict [(.str "value", .str "x"), (.str "expires_at", .list [])]) => true
  | _ => false

theorem eq_of_isNotJson {r : Except Error Value} (h : isNotJson r = true) : r = .error .notJson := by
  unfold isNotJson at h
  split at h
  · rfl
  · cases h

theorem eq_of_isListed {r : Except Error Value} (h : isListed r = true) :
    r = .ok (.dict [(.str "value", .str "x"), (.str "expires_at", .list [])]) := by
  unfold isListed at h
  split at h
  · rfl
  · cases h

theorem jsonOf_cutText : Files.jsonOf (Text.Utf8.encode cutText) = .error .notJson := by
  rw [Files.jsonOf, Text.Utf8.decode_encode]
  exact eq_of_isNotJson (by decide +kernel)

theorem jsonOf_listedText : Files.jsonOf (Text.Utf8.encode listedText) =
    .ok (.dict [(.str "value", .str "x"), (.str "expires_at", .list [])]) := by
  rw [Files.jsonOf, Text.Utf8.decode_encode]
  exact eq_of_isListed (by decide +kernel)

theorem outcome_read_of_file_cut_listed :
    (read cacheDirectory "k").outcome (holding cutText) = .ok none ∧
      ∃ e, (read cacheDirectory "k").outcome (holding listedText) = .error e := by
  have hcut : ¬IsHole (Text.Utf8.encode cutText) := by
    rw [isHole_iff_of_error jsonOf_cutText]
    exact Error.noConfusion
  have hlisted : IsHole (Text.Utf8.encode listedText) :=
    .timeless ⟨_, jsonOf_listedText, rfl⟩ Value.noConfusion rfl
  have hnone : liveIn? (holding cutText).now (Text.Utf8.encode cutText) = none := by
    rw [liveIn?, jsonOf_cutText]
  refine ⟨?_, (outcome_read_of_file (find_holding listedText)).1 hlisted⟩
  rw [(outcome_read_of_file (find_holding cutText)).2 hcut, hnone]

/-- A look at an entry with a list for an expiry fails with the fault of a number that is none. -/
theorem read_listed_fails :
    (read cacheDirectory "k").outcome (holding listedText) = .error (.mismatch (.notForFloat "list")) := by
  have hread := Files.run_readJson? (find_holding listedText)
  rw [jsonOf_listedText] at hread
  exact outcome_read_expiring (find_holding listedText) (run_readEntry hread) rfl Value.noConfusion

end Cache.Directory

end Stencil
