import Stencil.Cache.Directory
import Stencil.Proofs.Cache.Key
import Stencil.Proofs.Cache.Memory
import Stencil.Proofs.Files.Access
import Stencil.Proofs.Files.Directory
import Stencil.Proofs.Json.Flat

/-! A directory that holds the files of the entries of a memory, and no other files of entries. An entry is read
back from the bytes that it is written as. Each step of the directory answers as the step of the memory does, leaves
the files of the entries that the memory has then, and changes no other file. -/
namespace Stencil.Cache.Directory

open Act (run_bind_ok run_bind_error run_get_bind)
open Files (IsFileOf)
open FileTree (nameSize nameLimit pathLimit KeepsRoads ChangesAt)
open Json (render sortKeys sortPairs fault? isFlatPair)

/-! ### Names -/

/-- Whether keys keep every character of a text. -/
def isPlain (key : String) : Bool := key.toList.all isKeyChar

/-- The name of the file of such a key. -/
def entryName (key : String) : String := key ++ entrySuffix

section

variable {directory : Path} {key start name : String}

theorem fileText_of_isPlain (h : isPlain key = true) : fileText key = key := by
  rw [fileText, sanitize_of_forall (List.all_eq_true.mp h), String.ofList_toList]

theorem entryPath_of_isPlain (h : isPlain key = true) :
    entryPath directory key = directory.child (entryName key) := by
  rw [entryPath, fileText_of_isPlain h, entryName]

theorem entryName_injective : Function.Injective entryName := by
  intro a b h
  have h := congrArg String.toList h
  rw [entryName, entryName, String.toList_append, String.toList_append] at h
  exact String.toList_inj.mp (List.append_cancel_right h)

theorem endsWith_iff (s stop : String) : s.endsWith stop = true ↔ stop.toList <:+ s.toList := by
  unfold String.endsWith
  rw [String.Slice.endsWith_string_iff, String.copy_toSlice]

theorem endsWith_entryName (key : String) : (entryName key).endsWith entrySuffix = true := by
  rw [endsWith_iff, entryName, String.toList_append]
  exact List.suffix_append _ _

theorem exists_entryName {name : String} (h : name.endsWith entrySuffix = true) :
    ∃ key, name = entryName key := by
  obtain ⟨front, hfront⟩ := (endsWith_iff _ _).mp h
  refine ⟨String.ofList front, String.toList_inj.mp ?_⟩
  rw [entryName, String.toList_append, String.toList_ofList, hfront]

/-- The name of a key's file begins as the key does, also where the key is no longer than the beginning. -/
theorem entryName_matches (start key : String) :
    ((entryName key).startsWith start && ((entryName key).drop start.length).toString.endsWith entrySuffix) =
      key.startsWith start := by
  rw [Bool.eq_iff_iff, Bool.and_eq_true, endsWith_iff, String.startsWith_string_iff,
    String.startsWith_string_iff]
  change _ ∧ _ <:+ ((entryName key).drop start.length).copy.toList ↔ _
  rw [String.toList_copy_drop, entryName, String.toList_append, ← String.length_toList]
  constructor
  · rintro ⟨hstart, hstop⟩
    refine List.prefix_of_prefix_length_le hstart (List.prefix_append _ _) ?_
    have hroom := hstop.length_le
    rw [List.length_drop, List.length_append] at hroom
    have hsuffix : 0 < entrySuffix.toList.length := by decide
    omega
  · intro hstart
    refine ⟨hstart.trans (List.prefix_append _ _), ?_⟩
    rw [List.drop_append_of_le_length hstart.length_le]
    exact List.suffix_append _ _

theorem endsWith_of_matches {name start : String}
    (h : (name.drop start.length).toString.endsWith entrySuffix = true) : name.endsWith entrySuffix = true := by
  rw [endsWith_iff] at h ⊢
  change _ <:+ (name.drop start.length).copy.toList at h
  rw [String.toList_copy_drop] at h
  exact h.trans (List.drop_suffix _ _)

/-- The name of a file is plain where the key is. -/
theorem isEntryName_entryName (h : isPlain key = true)
    (hsize : FileTree.nameSize (entryName key) ≤ FileTree.nameLimit) : Path.IsEntryName (entryName key) := by
  have hkey {c : Char} (hc : c ∈ (entryName key).toList) : isKeyChar c = true := by
    rw [entryName, String.toList_append, List.mem_append] at hc
    rcases hc with hc | hc
    · exact List.all_eq_true.mp h c hc
    · exact List.all_eq_true.mp (by decide : entrySuffix.toList.all isKeyChar = true) c hc
  have hlong : 3 ≤ (entryName key).toList.length := by
    rw [entryName, String.toList_append, List.length_append]
    exact Nat.le_trans (by decide : 3 ≤ entrySuffix.toList.length) (Nat.le_add_left _ _)
  refine ⟨fun hc => absurd (hkey hc) (by decide), fun hc => absurd (hkey hc) (by decide), ?_, ?_, ?_, hsize⟩
  all_goals
    intro heq
    rw [heq] at hlong
    exact absurd hlong (by decide)

end

/-! ### Contents -/

/-- What is written for an entry, in the order of the names. -/
def entryPairs (key : String) (e : Kept) : List (Scalar × Value) :=
  [(.str "expires_at", (e.expires.map Value.float).getD .null), (.str "key", .str key),
    (.str "value", .str e.value)]

/-- The bytes of the file of an entry. -/
def entryBytes (key : String) (e : Kept) : List UInt8 :=
  Text.Utf8.encode (render .block 0 (.dict (entryPairs key e)))

theorem mergeSort_last_first {α : Type} {le : α → α → Bool} {a b c : α} (hab : le a b = true)
    (hac : le a c = false) : [a, b, c].mergeSort le = [c, a, b] := by
  simp [List.mergeSort, List.MergeSort.Internal.splitInTwo, hab, hac]

theorem sortKeys_entryValue (key : String) (e : Kept) :
    sortKeys (entryValue key e) = .dict (entryPairs key e) := by
  have hleaf : sortKeys ((e.expires.map Value.float).getD .null) =
      (e.expires.map Value.float).getD .null := by
    cases e.expires <;> rfl
  have hname (a b : String) : (!decide (String.ofList (Json.keyName (.str b)) <
      String.ofList (Json.keyName (.str a)))) = !decide (b < a) := by
    rw [Json.keyName, Json.keyName, String.ofList_toList, String.ofList_toList]
  simp only [entryValue, sortKeys, Json.sortKeysPairs, hleaf]
  refine congrArg Value.dict (mergeSort_last_first ?_ ?_)
  · exact (hname "key" "value").trans (by decide)
  · exact (hname "key" "expires_at").trans (by decide)

theorem fault?_entryValue (key : String) (e : Kept) : fault? (entryValue key e) = none := by
  cases hexpires : e.expires <;>
    simp [entryValue, hexpires, fault?, Json.faultIn?, Json.nestFault?, Json.deepestWritten, Recursion.levels,
      Recursion.callLimit, Json.pairsFault?, Json.keyFault?, Json.isKey, Json.scalarFault?, Scalar.isTooLong]

theorem isFlatPair_of_mem {key : String} {e : Kept} : ∀ p ∈ entryPairs key e, isFlatPair p = true := by
  cases hexpires : e.expires <;> simp [entryPairs, hexpires, isFlatPair, Json.isUnbounded]

theorem ofPairs_entryPairs (key : String) (e : Kept) :
    Mapping.ofPairs (entryPairs key e) = entryPairs key e := by
  simp [Mapping.ofPairs, Mapping.overlay, entryPairs, Mapping.insert]

/-- The text of an entry is read back. -/
theorem parseJson_entry (key : String) (e : Kept) :
    Files.parseJson (Text.Utf8.foldNewlines (render .block 0 (.dict (entryPairs key e)))) =
      .ok (.dict (entryPairs key e)) := by
  rw [Text.Utf8.foldNewlines_eq_self (Json.return_notMem_render_flat isFlatPair_of_mem), Files.parseJson,
    Json.parse_render_flat isFlatPair_of_mem, ofPairs_entryPairs]

theorem entryParts?_entryPairs (key : String) (e : Kept) :
    entryParts? (.dict (entryPairs key e)) = some (e.value, (e.expires.map Value.float).getD .null) := by
  simp [entryParts?, entryPairs, Mapping.get?]

/-! ### A directory in step with a memory -/

/-- Whether the file of a key has a name and a path that are short enough. -/
structure IsNameable (directory : Path) (key : String) : Prop where
  plain : isPlain key = true
  name : nameSize (entryName key) ≤ nameLimit
  path : nameSize (directory.child (entryName key)).text < pathLimit

/-- Whether also the file in the making has such a name. -/
structure IsWritable (directory : Path) (key : String) : Prop extends IsNameable directory key where
  draft : nameSize (entryName key) + Files.draftMargin ≤ nameLimit

/-- Whether what stands under the name of a key is the file of its entry, or nothing if there is no entry. -/
inductive Filed (key : String) : Option Kept → Option Entry → Prop
  | absent : Filed key none none
  | present (e : Kept) (stamp serial : Nat) : Filed key (some e) (some (.file (entryBytes key e) stamp serial))

/-- Whether an open directory holds the entries of a memory. -/
structure Mirrors (directory : Path) (place : List String) (m : Memory) (s : Session) : Prop where
  found : s.tree.find true s.cwd directory = .ok (place, some .directory)
  opened : place ∉ s.tree.locked
  writable : ∀ {key e}, m.entries.lookup key = some e → IsWritable directory key
  filed : ∀ key, Filed key (m.entries.lookup key) (s.tree.get? (place ++ [entryName key]))

/-- Whether two trees are the same but for the files of entries. -/
structure SameOthers (place : List String) (t t' : FileTree) : Prop where
  entries : ∀ q, (∀ key, q ≠ place ++ [entryName key]) → t'.get? q = t.get? q
  locked : t'.locked = t.locked

theorem SameOthers.refl (place : List String) (t : FileTree) : SameOthers place t t := ⟨fun _ _ => rfl, rfl⟩

theorem SameOthers.trans {place : List String} {t t' t'' : FileTree} (h : SameOthers place t t')
    (h' : SameOthers place t' t'') : SameOthers place t t'' :=
  ⟨fun q hq => (h'.entries q hq).trans (h.entries q hq), h'.locked.trans h.locked⟩

theorem SameOthers.of_changesAt {place : List String} {t t' : FileTree} {key : String} {e : Option Entry}
    (h : ChangesAt t t' (place ++ [entryName key]) e) : SameOthers place t t' :=
  ⟨fun q hq => by rw [h.entries, if_neg (hq key)], h.locked⟩

section

variable {directory : Path} {place : List String} {m m' : Memory} {s s' : Session} {t : FileTree}
  {key value start : String} {lifetime : Option Lifetime}

theorem Filed.isOffRoad {kept : Option Kept} {entry : Option Entry} (h : Filed key kept entry) :
    ∀ e, entry = some e → e.isRoad = false := by
  cases h with
  | absent => exact fun _ he => nomatch he
  | present e stamp serial =>
    rintro _ ⟨⟩
    rfl

theorem Filed.ne_none_iff {kept : Option Kept} {entry : Option Entry} (h : Filed key kept entry) :
    entry ≠ none ↔ ∃ e, kept = some e := by
  cases h with
  | absent => simp
  | present e stamp serial => simp

theorem Mirrors.isFileOf (h : Mirrors directory place m s) (hkey : IsNameable directory key) :
    IsFileOf s directory place (entryName key) where
  found := h.found
  opened := h.opened
  isEntryName := isEntryName_entryName hkey.plain hkey.name
  size := hkey.path
  isOffRoad := (h.filed key).isOffRoad

theorem Mirrors.at_time (h : Mirrors directory place m s) (now : Float) :
    Mirrors directory place m { s with now } :=
  ⟨h.found, h.opened, h.writable, h.filed⟩

/-- What the directory holds after some files of entries were changed. -/
theorem Mirrors.change (h : Mirrors directory place m s) (hothers : SameOthers place s.tree t)
    (hwritable : ∀ {k e}, m'.entries.lookup k = some e → IsWritable directory k)
    (hfiled : ∀ k, Filed k (m'.entries.lookup k) (t.get? (place ++ [entryName k]))) :
    Mirrors directory place m' { s with tree := t } where
  found := by
    refine KeepsRoads.find (t := s.tree) ⟨fun q e he hq => ?_, hothers.locked⟩ h.found
    rw [hothers.entries q, hq]
    rintro k rfl
    rw [(h.filed k).isOffRoad e hq] at he
    cases he
  opened := hothers.locked ▸ h.opened
  writable := hwritable
  filed := hfiled

theorem entryPlace_inj {k : String} : place ++ [entryName k] = place ++ [entryName key] ↔ k = key := by
  rw [List.append_cancel_left_eq, List.cons.injEq, entryName_injective.eq_iff]
  exact and_iff_left rfl

/-- What the directory holds after the entries of some keys were taken away. -/
theorem Mirrors.taken (h : Mirrors directory place m s) (gone : String → Bool)
    (hlookup : ∀ k, m'.entries.lookup k = if gone k then none else m.entries.lookup k)
    (ht : ∀ k, t.get? (place ++ [entryName k]) =
      if gone k then none else s.tree.get? (place ++ [entryName k]))
    (hothers : SameOthers place s.tree t) : Mirrors directory place m' { s with tree := t } := by
  refine h.change hothers (fun {k e} hk => ?_) fun k => ?_
  · rw [hlookup] at hk
    split at hk
    · cases hk
    · exact h.writable hk
  · rw [hlookup, ht]
    split
    · exact .absent
    · exact h.filed k

/-- One file of an entry is taken away. -/
theorem Mirrors.remove (h : Mirrors directory place m s)
    (ht : ChangesAt s.tree t (place ++ [entryName key]) none) :
    SameOthers place s.tree t ∧ Mirrors directory place (m.remove key) { s with tree := t } := by
  have hothers : SameOthers place s.tree t := .of_changesAt ht
  refine ⟨hothers, h.taken (· == key) (fun k => ?_) (fun k => ?_) hothers⟩
  · simp only [Memory.lookup_remove, beq_iff_eq]
  · simp only [ht.entries, entryPlace_inj, beq_iff_eq]

/-! ### Reading -/

theorem run_readEntry {v : Option Value} (h : Files.readJson? (entryPath directory key) s = .ok v s) :
    readEntry (entryPath directory key) s = .ok v s := by
  unfold readEntry
  rw [run_bind_ok (Act.run_attempt_ok h)]
  rfl

/-- A look finds what the memory finds, and takes away what the memory does. -/
theorem Mirrors.run_read (h : Mirrors directory place m s) (hkey : IsNameable directory key) :
    ∃ t, read directory key s = .ok (m.read s.now key).1 { s with tree := t } ∧
      Mirrors directory place (m.read s.now key).2 { s with tree := t } ∧ SameOthers place s.tree t := by
  have hfile := h.isFileOf hkey
  have hpath : entryPath directory key = directory.child (entryName key) := entryPath_of_isPlain hkey.plain
  have hfiled := h.filed key
  unfold read Memory.read
  generalize hlookup : m.entries.lookup key = kept at hfiled
  generalize hentry : s.tree.get? (place ++ [entryName key]) = entry at hfiled
  cases hfiled with
  | absent =>
    have hread : readEntry (entryPath directory key) s = .ok none s :=
      run_readEntry (by rw [hpath]; exact hfile.run_readJson?_none hentry)
    rw [run_bind_ok hread]
    exact ⟨s.tree, rfl, h, .refl _ _⟩
  | present e stamp serial =>
    have hread : readEntry (entryPath directory key) s = .ok (some (.dict (entryPairs key e))) s :=
      run_readEntry (by rw [hpath]; exact hfile.run_readJson?_some hentry (parseJson_entry key e))
    rw [run_bind_ok hread, Option.bind_some, entryParts?_entryPairs]
    cases hexpires : e.expires with
    | none =>
      have hlive : e.isDead s.now = false := by rw [Kept.isDead, hexpires]
      simp only [hlive]
      exact ⟨s.tree, rfl, h, .refl _ _⟩
    | some x =>
      have hsame : (⟨e.value, some x⟩ : Kept) = e := by rw [← hexpires]
      have htime : Act.ofExcept (Value.float x).toFloat s = .ok x s := rfl
      change ∃ t, (Act.ofExcept (Value.float x).toFloat >>= fun x => _) s = _ ∧ _
      rw [run_bind_ok htime, run_get_bind, hsame]
      by_cases hdead : e.isDead s.now = true
      · obtain ⟨t, hunlink, ht⟩ := hfile.run_unlink
        obtain ⟨hothers, hmirrors⟩ := h.remove ht
        simp only [hdead, if_true]
        rw [hpath, run_bind_ok hunlink]
        exact ⟨t, rfl, hmirrors, hothers⟩
      · simp only [hdead]
        exact ⟨s.tree, rfl, h, .refl _ _⟩

/-! ### Writing -/

theorem run_put_of_expiry {expires : Option Float}
    (hensure : Files.ensureDirectory directory true s' = .ok () s)
    (hexpiry : expiry s.now lifetime = .ok expires) :
    put directory key value lifetime s' =
      Files.writeJson (entryPath directory key) 2 true (entryValue key ⟨value, expires⟩) s := by
  unfold put
  rw [run_bind_ok hensure, run_get_bind, hexpiry,
    run_bind_ok (show Act.ofExcept (.ok expires) s = .ok expires s from rfl)]

/-- A value that is kept in the memory is kept in the directory. -/
theorem Mirrors.run_put (h : Mirrors directory place m s)
    (hensure : Files.ensureDirectory directory true s' = .ok () s) (hkey : IsWritable directory key)
    (hput : m.put s.now key value lifetime = .ok m') :
    ∃ t, put directory key value lifetime s' = .ok () { s with tree := t } ∧
      Mirrors directory place m' { s with tree := t } ∧ SameOthers place s.tree t := by
  obtain ⟨expires, hexpiry⟩ := Memory.exists_expiry hput
  obtain ⟨t, hwrite, ht⟩ := (h.isFileOf hkey.toIsNameable).run_writeJson hkey.draft
    (fault?_entryValue key ⟨value, expires⟩)
  rw [sortKeys_entryValue] at ht
  have hothers : SameOthers place s.tree t := .of_changesAt ht
  refine ⟨t, ?_, h.change hothers (fun {k e} hk => ?_) fun k => ?_, hothers⟩
  · rw [run_put_of_expiry hensure hexpiry, entryPath_of_isPlain hkey.plain, hwrite]
  · rw [Memory.lookup_put hexpiry hput] at hk
    split at hk
    · next hsame => rwa [hsame]
    · exact h.writable hk
  · rw [Memory.lookup_put hexpiry hput, ht.entries]
    by_cases hk : k = key
    · rw [if_pos hk, hk, if_pos rfl]
      exact .present _ _ _
    · rw [if_neg hk, if_neg (mt entryPlace_inj.mp hk)]
      exact h.filed k

/-- A value of which the file in the making has too long a name is refused. -/
theorem Mirrors.run_put_long (h : Mirrors directory place m s)
    (hensure : Files.ensureDirectory directory true s' = .ok () s) (hkey : IsNameable directory key)
    (hlong : nameLimit < nameSize (entryName key) + Files.draftMargin)
    (hput : m.put s.now key value lifetime = .ok m') :
    put directory key value lifetime s' =
      .error (.system .nameTooLong (entryPath directory key).text) s := by
  obtain ⟨expires, hexpiry⟩ := Memory.exists_expiry hput
  rw [run_put_of_expiry hensure hexpiry, entryPath_of_isPlain hkey.plain]
  exact (h.isFileOf hkey).run_writeJson_long hlong _

/-- A value that the memory refuses is refused. -/
theorem run_put_error {e : Error} (hensure : Files.ensureDirectory directory true s' = .ok () s)
    (hput : m.put s.now key value lifetime = .error e) : put directory key value lifetime s' = .error e s := by
  unfold put
  rw [run_bind_ok hensure, run_get_bind,
    Memory.put_eq_error_iff.mp hput]
  rfl

/-! ### Taking away -/

theorem run_unlinkAll {names : List String} (h : ∀ n ∈ names, IsFileOf s directory place n) :
    ∃ t, unlinkAll directory names s = .ok () { s with tree := t } ∧ t.locked = s.tree.locked ∧
      ∀ q, t.get? q = if ∃ n ∈ names, q = place ++ [n] then none else s.tree.get? q := by
  induction names generalizing s with
  | nil => exact ⟨s.tree, rfl, rfl, fun q => by simp⟩
  | cons n names ih =>
    have hn := h n List.mem_cons_self
    obtain ⟨t, hunlink, ht⟩ := hn.run_unlink
    obtain ⟨t', hrest, hlocked, ht'⟩ := ih fun n' hn' =>
      (h n' (List.mem_cons_of_mem n hn')).unlinked hn.isOffRoad ht
    refine ⟨t', (run_bind_ok hunlink).trans hrest, hlocked.trans ht.locked, fun q => ?_⟩
    rw [ht']
    by_cases hq : q = place ++ [n]
    · simp [hq, ht.entries]
    · simp [hq, ht.entries]

/-- The names of the files that are taken away with the keys that begin as `start` does. -/
def namesFrom (directory : Path) (start : String) (s : Session) : List String :=
  (s.tree.names s.cwd directory).filter fun n =>
    n.startsWith (fileText start) && (n.drop (fileText start).length).toString.endsWith entrySuffix

/-- They are those of the entries of the memory. -/
theorem Mirrors.mem_namesFrom_iff (h : Mirrors directory place m s) (hstart : isPlain start = true)
    {n : String} : n ∈ namesFrom directory start s ↔
      ∃ key e, m.entries.lookup key = some e ∧ key.startsWith start = true ∧ n = entryName key := by
  rw [namesFrom, List.mem_filter, FileTree.names_of_find h.found, FileTree.mem_namesBelow,
    fileText_of_isPlain hstart]
  constructor
  · rintro ⟨hthere, hmatches⟩
    obtain ⟨key, rfl⟩ := exists_entryName (endsWith_of_matches ((Bool.and_eq_true _ _).mp hmatches).2)
    obtain ⟨e, he⟩ := (h.filed key).ne_none_iff.mp hthere
    exact ⟨key, e, he, by rw [← entryName_matches, hmatches], rfl⟩
  · rintro ⟨key, e, he, hkey, rfl⟩
    exact ⟨(h.filed key).ne_none_iff.mpr ⟨e, he⟩, by rw [entryName_matches, hkey]⟩

theorem Mirrors.isEmpty_namesFrom (h : Mirrors directory place m s) (hstart : isPlain start = true) :
    (!(namesFrom directory start s).isEmpty) = (m.removeLike start).1 := by
  rw [Bool.eq_iff_iff, Memory.removeLike_fst, Bool.not_eq_true', List.isEmpty_eq_false_iff_exists_mem]
  constructor
  · rintro ⟨n, hn⟩
    obtain ⟨key, e, he, hkey, -⟩ := (h.mem_namesFrom_iff hstart).mp hn
    exact ⟨key, e, he, hkey⟩
  · rintro ⟨key, e, he, hkey⟩
    exact ⟨entryName key, (h.mem_namesFrom_iff hstart).mpr ⟨key, e, he, hkey, rfl⟩⟩

/-- Of the files of entries, those are taken away that are there and whose keys begin alike. -/
theorem Mirrors.get?_unlinked (h : Mirrors directory place m s) (hstart : isPlain start = true)
    (ht : ∀ q, t.get? q =
      if ∃ n ∈ namesFrom directory start s, q = place ++ [n] then none else s.tree.get? q) (k : String) :
    t.get? (place ++ [entryName k]) =
      if k.startsWith start then none else s.tree.get? (place ++ [entryName k]) := by
  rw [ht]
  by_cases hkey : k.startsWith start = true
  · rw [if_pos hkey, ite_eq_left_iff]
    intro hnot
    by_contra hthere
    obtain ⟨e, he⟩ := (h.filed k).ne_none_iff.mp hthere
    exact hnot ⟨entryName k, (h.mem_namesFrom_iff hstart).mpr ⟨k, e, he, hkey, rfl⟩, rfl⟩
  · rw [if_neg hkey, if_neg]
    rintro ⟨n, hn, heq⟩
    obtain ⟨key, e, -, hbegins, rfl⟩ := (h.mem_namesFrom_iff hstart).mp hn
    rw [entryPlace_inj.mp heq] at hkey
    exact hkey hbegins

/-- The entries whose keys begin alike are taken away, and there were some if the memory has some. -/
theorem Mirrors.run_removeLike (h : Mirrors directory place m s) (hstart : isPlain start = true) :
    ∃ t, removeLike directory start s = .ok (m.removeLike start).1 { s with tree := t } ∧
      Mirrors directory place (m.removeLike start).2 { s with tree := t } ∧ SameOthers place s.tree t := by
  have hfiles : ∀ n ∈ namesFrom directory start s, IsFileOf s directory place n := by
    intro n hn
    obtain ⟨key, e, he, -, rfl⟩ := (h.mem_namesFrom_iff hstart).mp hn
    exact h.isFileOf (h.writable he).toIsNameable
  obtain ⟨t, hunlink, hlocked, ht⟩ := run_unlinkAll hfiles
  have hothers : SameOthers place s.tree t := by
    refine ⟨fun q hq => ?_, hlocked⟩
    rw [ht, if_neg]
    rintro ⟨n, hn, rfl⟩
    obtain ⟨key, e, -, -, rfl⟩ := (h.mem_namesFrom_iff hstart).mp hn
    exact hq key rfl
  have hmirrors : Mirrors directory place (m.removeLike start).2 { s with tree := t } :=
    h.taken (·.startsWith start) (m.lookup_removeLike start) (h.get?_unlinked hstart ht) hothers
  refine ⟨t, ?_, hmirrors, hothers⟩
  unfold removeLike
  rw [run_bind_ok (Files.run_hasEntry (FileTree.hasEntry_of_find h.found)), Option.isSome_some, if_pos rfl,
    run_bind_ok (show Files.namesLike directory (fileText start) entrySuffix s =
      .ok (namesFrom directory start s) s from rfl),
    run_bind_ok hunlink, h.isEmpty_namesFrom hstart]
  rfl

end

end Stencil.Cache.Directory
