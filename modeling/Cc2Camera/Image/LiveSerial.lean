import Cc2Camera.Image.LiveFiles
import Cc2Camera.Image.Blank
import Cc2Camera.Lib.Overlay
import Mathlib.Data.List.Dedup

/-!
# LiveSerial — when the selected serial is the live one

The serial-only path takes the newest node that holds a whole plain `serial.cfg`; the preserving path
overlays every current fragment of the live inode.  They agree exactly when no node newer than the one
taken alters the file (`serialPayload_is_live_iff`).
-/

open Bytes Exceptions Sorting Overlay

namespace Cc2Camera.Image

variable (codecs : Codecs)

/-! ## 1. Reading a file as an overlay -/

-- what a fragment writes, once it is known to decode
def fragmentWrite (name : Bytes) (fragment : Inode) : Write UInt8 where
  start := fragment.fileOffset
  data := ((decodeJffs2Fragment codecs fragment name).toOption).getD []

/-- The writes of an inode's current fragments, oldest first. -/
def inodeWrites (nodes : List Node) (name : Bytes) (inode : Nat) : List (Write UInt8) :=
  (sortByVersion (currentInodes nodes inode)).map (fragmentWrite codecs name)

theorem decodeJffs2Fragment_ok {node : Inode} {name data : Bytes}
    (h : decodeJffs2Fragment codecs node name = .ok data) :
    fragmentData codecs node name = .ok data ∧ data.length = node.decompressedSize ∧
      node.decompressedSize ≤ CONFIG_SIZE := by
  unfold decodeJffs2Fragment at h
  obtain ⟨_, hsize, h⟩ := bind_eq_ok.mp h
  obtain ⟨found, hfound, h⟩ := bind_eq_ok.mp h
  obtain ⟨_, hlength, h⟩ := bind_eq_ok.mp h
  rw [raiseIf_eq_ok] at hsize hlength
  obtain rfl : found = data := Except.ok.inj h
  exact ⟨hfound, by omega, by omega⟩

theorem overlayFragments_decodes {name : Bytes} {fileSize : Nat} {fragments : List Inode}
    {data out : Bytes} (h : overlayFragments codecs name fileSize fragments data = .ok out) :
    ∀ n ∈ fragments, ∃ decoded, decodeJffs2Fragment codecs n name = .ok decoded := by
  induction fragments generalizing data with
  | nil => exact fun n hn => absurd hn List.not_mem_nil
  | cons fragment fragments ih =>
    obtain ⟨decoded, hdecoded, h⟩ := bind_eq_ok.mp h
    have hrest : ∀ n ∈ fragments, ∃ decoded, decodeJffs2Fragment codecs n name = .ok decoded := by
      simp only at h
      split at h
      · exact ih h
      · exact ih h
    intro n hn
    rcases List.mem_cons.mp hn with rfl | hn
    · exact ⟨decoded, hdecoded⟩
    · exact hrest n hn

theorem overlayFragments_eq_putAll {name : Bytes} {fileSize : Nat} {fragments : List Inode}
    {data out : Bytes} (hlen : data.length = fileSize)
    (h : overlayFragments codecs name fileSize fragments data = .ok out) :
    out = putAll data (fragments.map (fragmentWrite codecs name)) := by
  induction fragments generalizing data with
  | nil => exact (Except.ok.inj h).symm
  | cons fragment fragments ih =>
    obtain ⟨decoded, hdecoded, h⟩ := bind_eq_ok.mp h
    have hwrite : fragmentWrite codecs name fragment = ⟨fragment.fileOffset, decoded⟩ := by
      rw [fragmentWrite, hdecoded]
      rfl
    rw [List.map_cons, putAll, List.foldl_cons, ← putAll, hwrite]
    simp only at h
    split at h
    · -- nothing to write: the fragment lies behind the file or is empty
      rename_i hskip
      have hput : put data ⟨fragment.fileOffset, decoded⟩ = data := by
        rcases hskip with hskip | rfl
        · exact put_of_length_le (by rw [hlen]; exact hskip)
        · exact put_nil data _
      rw [hput]
      exact ih hlen h
    · rename_i hwritten
      rw [not_or] at hwritten
      have hput : put data ⟨fragment.fileOffset, decoded⟩ =
          splice data fragment.fileOffset (min (fragment.fileOffset + decoded.length) fileSize)
            (decoded.take (min (fragment.fileOffset + decoded.length) fileSize -
              fragment.fileOffset)) := by
        rw [put, hlen, if_neg hwritten.1]
      rw [← hput] at h
      exact ih (by rw [length_put, hlen]) h

/-- A file that is read back is its size in zeros, with the writes of its inode over it, each of which
decodes. -/
theorem reconstructFile_data {nodes : List Node} {name : Bytes} {dirent : Dirent} {seen : List Nat}
    {file : ConfigFile} (h : reconstructFile codecs nodes name dirent seen = .ok file) :
    ∃ newest, (sortByVersion (currentInodes nodes dirent.inode)).getLast? = some newest ∧
      file.data = putAll (List.replicate newest.fileSize 0) (inodeWrites codecs nodes name dirent.inode) ∧
      ∀ n ∈ sortByVersion (currentInodes nodes dirent.inode),
        ∃ decoded, decodeJffs2Fragment codecs n name = .ok decoded := by
  unfold reconstructFile at h
  obtain ⟨_, -, h⟩ := bind_eq_ok.mp h
  obtain ⟨_, -, h⟩ := bind_eq_ok.mp h
  obtain ⟨_, -, h⟩ := bind_eq_ok.mp h
  obtain ⟨last, hlast, h⟩ := bind_eq_ok.mp h
  obtain ⟨_, hunique, h⟩ := bind_eq_ok.mp h
  obtain ⟨metadata, hmetadata, h⟩ := bind_eq_ok.mp h
  obtain ⟨_, -, h⟩ := bind_eq_ok.mp h
  obtain ⟨_, -, h⟩ := bind_eq_ok.mp h
  obtain ⟨data, hdata, h⟩ := bind_eq_ok.mp h
  rw [orRaise_eq_ok] at hlast hmetadata
  -- the newest version is unique, so its metadata is that of the last fragment
  have hsame : metadata = last := by
    rw [raiseIf_eq_ok, not_not] at hunique
    obtain ⟨one, hone⟩ := List.length_eq_one_iff.mp hunique
    have hmem : last ∈ [one] := by
      rw [← hone, List.mem_filter]
      exact ⟨List.mem_of_getLast? hlast, decide_eq_true rfl⟩
    rw [hone, List.head?_cons] at hmetadata
    rw [List.mem_singleton.mp hmem, Option.some.inj hmetadata]
  refine ⟨last, hlast, ?_, overlayFragments_decodes codecs hdata⟩
  rw [← Except.ok.inj h, ← hsame]
  exact overlayFragments_eq_putAll codecs List.length_replicate hdata

/-! ## 2. The selected node -/

/-- The newest current node of an inode that holds a whole plain serial. -/
structure NewestSerialNode (nodes : List Node) (inode : Nat) (node : Inode) : Prop where
  mem : node ∈ currentInodes nodes inode
  serial : isSerialNode node = true
  newest : ∀ n ∈ currentInodes nodes inode, isSerialNode n = true → n.version ≤ node.version

/-- A node that holds a whole plain serial, where the inode has no current one. -/
structure HistoricalSerialNode (nodes : List Node) (inode : Nat) (node : Inode) : Prop where
  noneCurrent : ∀ n ∈ currentInodes nodes inode, isSerialNode n = false
  mem : node ∈ nodes.filterMap Node.inode?
  serial : isSerialNode node = true

theorem liveSerialPayload_some {nodes : List Node} {map : DirentMap} {dirent : Dirent}
    {payload : Bytes} (hlive : (liveEntries map).lookup SERIAL_CFG = some dirent)
    (h : liveSerialPayload nodes map = .ok (some payload)) :
    ∃ node, NewestSerialNode nodes dirent.inode node ∧
      ∀ n, NewestSerialNode nodes dirent.inode n → n.payload = payload := by
  rw [liveSerialPayload, hlive] at h
  simp only at h
  split at h
  · exact absurd h (by simp)
  · rename_i first rest hsorted
    obtain ⟨_, hunique, h⟩ := bind_eq_ok.mp h
    rw [raiseIf_eq_ok, not_not] at hunique
    have hpayload : first.payload = payload := Option.some.inj (Except.ok.inj h)
    have hperm := perm_sortByKeyReverse Inode.version
      ((currentInodes nodes dirent.inode).filter isSerialNode)
    have hmem {n : Inode} : n ∈ first :: rest ↔
        n ∈ currentInodes nodes dirent.inode ∧ isSerialNode n = true := by
      rw [← hsorted, hperm.mem_iff, List.mem_filter]
    have hfirst : NewestSerialNode nodes dirent.inode first :=
      { mem := (hmem.mp List.mem_cons_self).1
        serial := (hmem.mp List.mem_cons_self).2
        newest := fun n hn hserial =>
          key_le_of_head hsorted (List.mem_filter.mpr ⟨hn, hserial⟩) }
    -- the newest version is unique among the candidates
    obtain ⟨one, hone⟩ := List.length_eq_one_iff.mp hunique
    have only {n : Inode} (hn : n ∈ first :: rest) (hversion : n.version = first.version) :
        n = one := by
      rw [← List.mem_singleton, ← hone, List.mem_filter, hsorted]
      exact ⟨hn, decide_eq_true hversion⟩
    refine ⟨first, hfirst, fun n hn => ?_⟩
    have hversion : n.version = first.version :=
      Nat.le_antisymm (hfirst.newest n hn.mem hn.serial) (hn.newest first hfirst.mem hfirst.serial)
    rw [only (hmem.mpr ⟨hn.mem, hn.serial⟩) hversion, ← only List.mem_cons_self rfl, hpayload]

theorem liveSerialPayload_none {nodes : List Node} {map : DirentMap} {dirent : Dirent}
    (hlive : (liveEntries map).lookup SERIAL_CFG = some dirent)
    (h : liveSerialPayload nodes map = .ok none) :
    ∀ n ∈ currentInodes nodes dirent.inode, isSerialNode n = false := by
  rw [liveSerialPayload, hlive] at h
  simp only at h
  split at h
  · rename_i hsorted
    have hperm := perm_sortByKeyReverse Inode.version
      ((currentInodes nodes dirent.inode).filter isSerialNode)
    rw [hsorted] at hperm
    intro n hn
    have hnil := List.filter_eq_nil_iff.mp (List.nil_perm.mp hperm) n hn
    simpa using hnil
  · obtain ⟨_, -, h⟩ := bind_eq_ok.mp h
    exact absurd h (by simp)

/-- Which node the serial-only path takes: a current one of the live inode, or a historical one. -/
theorem selectSerial_cases {nodes : List Node} {map : DirentMap} {dirent : Dirent} {payload : Bytes}
    {source : SerialSource} (hlive : (liveEntries map).lookup SERIAL_CFG = some dirent)
    (h : selectSerial nodes map = .ok (payload, source)) :
    ((∃ node, NewestSerialNode nodes dirent.inode node) ∧
      ∀ node, NewestSerialNode nodes dirent.inode node → node.payload = payload) ∨
    (∃ node, HistoricalSerialNode nodes dirent.inode node) ∧
      ∀ node, HistoricalSerialNode nodes dirent.inode node → node.payload = payload := by
  obtain ⟨found, hfound, h⟩ := bind_eq_ok.mp h
  cases found with
  | some newest =>
    obtain ⟨rfl, -⟩ := Prod.mk.inj (Except.ok.inj h)
    obtain ⟨node, hnode, hpayload⟩ := liveSerialPayload_some hlive hfound
    exact .inl ⟨⟨node, hnode⟩, hpayload⟩
  | none =>
    have hnone := liveSerialPayload_none hlive hfound
    simp only at h
    split at h
    · rename_i only honly
      obtain ⟨rfl, -⟩ := Prod.mk.inj (Except.ok.inj h)
      have hmem {x : Bytes} : x = only ↔
          ∃ n, (n ∈ nodes.filterMap Node.inode? ∧ isSerialNode n = true) ∧ n.payload = x := by
        rw [← List.mem_singleton, ← honly, historicalSerials, List.mem_dedup, List.mem_map]
        simp only [List.mem_filter]
      obtain ⟨node, ⟨hnode, hserial⟩, -⟩ := hmem.mp rfl
      refine .inr ⟨⟨node, hnone, hnode, hserial⟩, fun n hn => ?_⟩
      exact hmem.mpr ⟨n, ⟨hn.mem, hn.serial⟩, rfl⟩
    · exact absurd h (by simp)

/-! ## 3. The nodes newer than the selected one -/

/-- The current nodes of the inode by version: `base` is the last that holds a whole plain serial, and
`newer` are those behind it. -/
def NewestSerial (nodes : List Node) (inode : Nat) (base : Inode) (newer : List Inode) : Prop :=
  (∃ older, sortByVersion (currentInodes nodes inode) = older ++ base :: newer) ∧
    isSerialNode base = true ∧ ∀ n ∈ newer, isSerialNode n = false

/-- No current node of the inode holds a whole plain serial: the path falls back to `base`, and every
current node, compressed or partial, is newer than it.  Together they write each of its bytes. -/
def HistoricalSerial (nodes : List Node) (inode : Nat) (base : Inode) (newer : List Inode) : Prop :=
  HistoricalSerialNode nodes inode base ∧ newer = sortByVersion (currentInodes nodes inode) ∧
    ∀ p < base.payload.length, ∃ n ∈ newer, (fragmentWrite codecs SERIAL_CFG n).Covers p

/-- The newer nodes change nothing: the last of them keeps the size, and none leaves another byte. -/
structure Unaltered (base : Inode) (newer : List Inode) : Prop where
  size : ∀ last, newer.getLast? = some last → last.fileSize = base.payload.length
  bytes : ¬Alters base.payload (newer.map (fragmentWrite codecs SERIAL_CFG))

/-- Newer nodes without data that keep the size, as a change of mode or times writes them. -/
theorem unaltered_of_noData {base : Inode} {newer : List Inode}
    (h : ∀ n ∈ newer, n.decompressedSize = 0 ∧ n.fileSize = base.payload.length) :
    Unaltered codecs base newer := by
  refine ⟨fun last hlast => (h last (List.mem_of_getLast? hlast)).2, not_alters_of_empty ?_⟩
  intro w hw
  obtain ⟨n, hn, rfl⟩ := List.mem_map.mp hw
  rw [fragmentWrite]
  cases hdecoded : decodeJffs2Fragment codecs n SERIAL_CFG with
  | error e => rfl
  | ok data =>
    have hlen := (decodeJffs2Fragment_ok codecs hdecoded).2.1
    rw [(h n hn).1] at hlen
    exact List.length_eq_zero_iff.mp hlen

theorem newestSerialNode_of_newestSerial {nodes : List Node} {inode : Nat} {base : Inode}
    {newer : List Inode} (h : NewestSerial nodes inode base newer) :
    NewestSerialNode nodes inode base := by
  obtain ⟨⟨older, hsorted⟩, hserial, hnewer⟩ := h
  have hperm := perm_sortByKey Inode.version (currentInodes nodes inode)
  have hpairs := pairwise_sortByKey Inode.version (currentInodes nodes inode)
  rw [← sortByVersion, hsorted] at hperm hpairs
  refine { mem := ?_, serial := hserial, newest := fun n hn hwhole => ?_ }
  · exact hperm.mem_iff.mp (List.mem_append_right _ List.mem_cons_self)
  · -- a whole serial is not behind the base, so it is the base or lies before it
    rcases List.mem_append.mp (hperm.mem_iff.mpr hn) with hn | hn
    · exact (List.pairwise_append.mp hpairs).2.2 n hn base List.mem_cons_self
    · rcases List.mem_cons.mp hn with rfl | hn
      · exact Nat.le_refl _
      · rw [hnewer n hn] at hwhole
        exact absurd hwhole (by decide)

theorem newestSerial_of_mem {nodes : List Node} {inode : Nat} {node : Inode}
    (hmem : node ∈ currentInodes nodes inode) (hserial : isSerialNode node = true) :
    ∃ base newer, NewestSerial nodes inode base newer := by
  have hsorted : node ∈ sortByVersion (currentInodes nodes inode) :=
    (perm_sortByKey Inode.version (currentInodes nodes inode)).mem_iff.mpr hmem
  -- the last of them, found from the end
  have hfound : ((sortByVersion (currentInodes nodes inode)).reverse.find? isSerialNode).isSome = true :=
    List.find?_isSome.mpr ⟨node, List.mem_reverse.mpr hsorted, hserial⟩
  obtain ⟨base, hbase⟩ := Option.isSome_iff_exists.mp hfound
  obtain ⟨hwhole, newer, older, hsplit, hnewer⟩ := List.find?_eq_some_iff_append.mp hbase
  rw [List.reverse_eq_iff, List.reverse_append, List.reverse_cons, List.append_assoc] at hsplit
  refine ⟨base, newer.reverse, ⟨older.reverse, hsplit⟩, hwhole, fun n hn => ?_⟩
  have hnot := hnewer n (List.mem_reverse.mp hn)
  simpa using hnot

-- a node that passes the filter writes its payload over the whole file
theorem fragmentWrite_serial {n : Inode} {data : Bytes} (hserial : isSerialNode n = true)
    (hdecoded : decodeJffs2Fragment codecs n SERIAL_CFG = .ok data) :
    fragmentWrite codecs SERIAL_CFG n = ⟨0, n.payload⟩ ∧ n.fileSize = n.payload.length := by
  rw [isSerialNode, decide_eq_true_eq] at hserial
  obtain ⟨hoffset, hplain, hwhole, hsize, -⟩ := hserial
  obtain ⟨hdata, hlen, -⟩ := decodeJffs2Fragment_ok codecs hdecoded
  rw [fragmentData, if_pos hplain] at hdata
  obtain rfl : n.payload = data := Except.ok.inj hdata
  refine ⟨?_, by rw [hsize, hlen]⟩
  rw [fragmentWrite, hdecoded, hoffset]
  rfl

/-! ## 4. Agreement with the overlay -/

/-- An overlay of zeros reads as a valid serial exactly when it has its size, each of its bytes was
written, and no write leaves another one. -/
theorem putAll_eq_serial_iff {payload : Bytes} (hvalid : serialPayloadIsValid payload = true)
    {size : Nat} {writes : List (Write UInt8)} :
    payload = putAll (List.replicate size 0) writes ↔
      (size = payload.length ∧ ¬Alters payload writes) ∧
        ∀ p < payload.length, ∃ w ∈ writes, w.Covers p := by
  constructor
  · intro h
    have hsize : size = payload.length := by
      rw [h, length_putAll, List.length_replicate]
    have hread {p : Nat} (hp : p < payload.length) :=
      @getElem?_putAll _ (List.replicate size 0) writes p (by rw [List.length_replicate]; omega)
    refine ⟨⟨hsize, ?_⟩, fun p hp => ?_⟩
    · rintro ⟨p, hp, w, hlast, hother⟩
      have hbyte := hread hp
      rw [← h, hlast] at hbyte
      exact hother hbyte.symm
    · -- an unwritten byte is zero, which no serial holds
      by_contra hunwritten
      have hbyte := hread hp
      rw [← h, lastWrite_eq_none.mpr (fun w hw hc => hunwritten ⟨w, hw, hc⟩),
        List.getElem?_replicate, if_pos (by omega)] at hbyte
      exact serial_byte_ne_zero hvalid 0 (List.mem_of_getElem? hbyte) rfl
  · rintro ⟨⟨rfl, hkept⟩, hwritten⟩
    apply List.ext_getElem?
    intro p
    by_cases hp : p < payload.length
    · rw [getElem?_putAll (by rw [List.length_replicate]; exact hp)]
      cases hlast : lastWrite writes p with
      | none =>
        obtain ⟨w, hw, hcovers⟩ := hwritten p hp
        exact absurd hcovers (lastWrite_eq_none.mp hlast w hw)
      | some w =>
        by_contra hother
        exact hkept ⟨p, hp, w, hlast, fun heq => hother heq.symm⟩
    · rw [List.getElem?_eq_none (by omega),
        List.getElem?_eq_none (by rw [length_putAll, List.length_replicate]; omega)]

/-- With a current serial node the live file is its payload exactly when the newer nodes leave it so. -/
theorem putAll_newestSerial_iff {nodes : List Node} {inode : Nat} {base last : Inode}
    {newer : List Inode} (h : NewestSerial nodes inode base newer)
    (hlast : (sortByVersion (currentInodes nodes inode)).getLast? = some last)
    (hdecodes : ∀ n ∈ sortByVersion (currentInodes nodes inode),
      ∃ decoded, decodeJffs2Fragment codecs n SERIAL_CFG = .ok decoded) :
    base.payload = putAll (List.replicate last.fileSize 0) (inodeWrites codecs nodes SERIAL_CFG inode) ↔
      Unaltered codecs base newer := by
  obtain ⟨⟨older, hsorted⟩, hserial, -⟩ := h
  rw [hsorted] at hlast hdecodes
  obtain ⟨decoded, hdecoded⟩ := hdecodes base (List.mem_append_right _ List.mem_cons_self)
  obtain ⟨hwrite, hwhole⟩ := fragmentWrite_serial codecs hserial hdecoded
  rw [inodeWrites, hsorted, List.map_append, List.map_cons, hwrite, putAll_whole_iff,
    List.length_replicate]
  rw [List.getLast?_append_of_ne_nil _ (List.cons_ne_nil _ _), List.getLast?_cons] at hlast
  have hsize : last.fileSize = base.payload.length ↔
      ∀ n, newer.getLast? = some n → n.fileSize = base.payload.length := by
    cases hnewer : newer.getLast? with
    | none =>
      rw [hnewer] at hlast
      obtain rfl : base = last := Option.some.inj hlast
      exact ⟨fun _ n hn => absurd hn (by simp), fun _ => hwhole⟩
    | some n =>
      rw [hnewer] at hlast
      obtain rfl : n = last := Option.some.inj hlast
      exact ⟨fun hn m hm => by rw [← Option.some.inj hm, hn], fun hall => hall n rfl⟩
  rw [hsize]
  exact ⟨fun hkept => ⟨hkept.1, hkept.2⟩, fun hkept => ⟨hkept.size, hkept.bytes⟩⟩

/-- The serial-only path returns the live `serial.cfg` exactly when no current node newer than the one it
takes alters it. -/
theorem serialPayload_is_live_iff {config : Bytes} {allow : Bool} {info : ConfigInfo}
    {map : DirentMap} {dirent : Dirent} {file : ConfigFile}
    (h : extractSerialAndConfigInfo codecs config allow false = .ok info)
    (hmap : currentDirents info.nodes = .ok map)
    (hlive : (liveEntries map).lookup SERIAL_CFG = some dirent)
    (hfile : reconstructFile codecs info.nodes SERIAL_CFG dirent [] = .ok file) :
    info.serialPayload = file.data ↔
      ∃ base newer, Unaltered codecs base newer ∧
        (NewestSerial info.nodes dirent.inode base newer ∨
          HistoricalSerial codecs info.nodes dirent.inode base newer) := by
  have hvalidInfo := extractSerialAndConfigInfo_serial codecs h
  obtain ⟨nodes, map', payload, source, value, files, -, -, -, hmap', hserial, -, -, rfl⟩ :=
    (extractSerialAndConfigInfo_eq_ok codecs).mp h
  obtain rfl := Except.ok.inj (hmap'.symm.trans hmap)
  obtain ⟨last, hlast, hdata, hdecodes⟩ := reconstructFile_data codecs hfile
  have hvalid : serialPayloadIsValid payload = true := hvalidInfo
  have hread : file.data = putAll (List.replicate last.fileSize 0)
      (inodeWrites codecs nodes SERIAL_CFG dirent.inode) := hdata
  show payload = file.data ↔ ∃ base newer, Unaltered codecs base newer ∧
    (NewestSerial nodes dirent.inode base newer ∨ HistoricalSerial codecs nodes dirent.inode base newer)
  rw [hread]
  rcases selectSerial_cases hlive hserial with ⟨⟨node, hnode⟩, hpayload⟩ | ⟨⟨node, hnode⟩, hpayload⟩
  · constructor
    · intro heq
      obtain ⟨base, newer, hbase⟩ := newestSerial_of_mem hnode.mem hnode.serial
      rw [← hpayload base (newestSerialNode_of_newestSerial hbase)] at heq
      exact ⟨base, newer, (putAll_newestSerial_iff codecs hbase hlast hdecodes).mp heq, .inl hbase⟩
    · rintro ⟨base, newer, hkept, hbase | hbase⟩
      · rw [← hpayload base (newestSerialNode_of_newestSerial hbase)]
        exact (putAll_newestSerial_iff codecs hbase hlast hdecodes).mpr hkept
      · -- the inode has a current serial node, so the path did not fall back
        have hfalse := hbase.1.noneCurrent node hnode.mem
        rw [hnode.serial] at hfalse
        exact absurd hfalse (by decide)
  · rw [putAll_eq_serial_iff hvalid, ← hpayload node hnode]
    have hcovers : (∀ p < node.payload.length,
        ∃ w ∈ inodeWrites codecs nodes SERIAL_CFG dirent.inode, w.Covers p) ↔
        ∀ p < node.payload.length, ∃ n ∈ sortByVersion (currentInodes nodes dirent.inode),
          (fragmentWrite codecs SERIAL_CFG n).Covers p := by
      simp only [inodeWrites, List.mem_map, exists_exists_and_eq_and]
    rw [hcovers]
    constructor
    · rintro ⟨⟨hsize, hkept⟩, hwritten⟩
      refine ⟨node, _, ⟨fun n hn => ?_, hkept⟩, .inr ⟨hnode, rfl, hwritten⟩⟩
      rw [← Option.some.inj (hlast.symm.trans hn), hsize]
    · rintro ⟨base, newer, hkept, hbase | hbase⟩
      · have hcurrent := newestSerialNode_of_newestSerial hbase
        have hfalse := hnode.noneCurrent base hcurrent.mem
        rw [hcurrent.serial] at hfalse
        exact absurd hfalse (by decide)
      · obtain ⟨hbase, rfl, hwritten⟩ := hbase
        have hsame : base.payload = node.payload := by
          rw [hpayload base hbase, hpayload node hnode]
        rw [← hsame]
        exact ⟨⟨hkept.size last hlast, hkept.bytes⟩, hwritten⟩

/-! ## 5. Two partitions with a newer node: one rewrites the serial, one only touches the file -/

-- a whole serial.cfg, and what it reads after its last character was rewritten
def wholeSerial : Bytes := ascii "serial=12PSSSS3AAAAAAAAAAAAAAAAAAAAAAAAAAAA\n"
def rewrittenSerial : Bytes := ascii "serial=12PSSSS3AAAAAAAAAAAAAAAAAAAAAAAAAAAB\n"

def rewrittenDirent : Dirent := rootDirent 1 2 1 8 SERIAL_CFG
def firstNode : Inode := wholeInode 2 1 0x81A4 0 0 18 18 18 0 wholeSerial
def rewriteNode : Inode :=
  { firstNode with
    version := 2, fileOffset := 42, compressedSize := 1, decompressedSize := 1, payload := ascii "B" }
-- the node that a change of the times writes
def touchNode : Inode :=
  { firstNode with
    version := 2, mtime := 19, ctime := 19, compressedSize := 0, decompressedSize := 0, payload := [] }

def updatedBody (newer : Inode) (gap : Bytes) : Bytes :=
  encodedDirent rewrittenDirent ++ [0xFF, 0xFF] ++ encodedInode firstNode ++ encodedInode newer ++ gap

def rewrittenBody : Bytes := updatedBody rewriteNode [0xFF, 0xFF, 0xFF]
def touchedBody : Bytes := updatedBody touchNode []

def rewrittenConfig : Bytes := laidOut rewrittenBody
def touchedConfig : Bytes := laidOut touchedBody

def updatedNodes (newer : Inode) : List Node :=
  [direntNode 0 rewrittenDirent, inodeNode 52 firstNode, inodeNode 164 newer]

def rewrittenNodes : List Node := updatedNodes rewriteNode

def updatedAt (newer : Inode) (offset : Nat) : Option Node :=
  if offset = 0 then some (direntNode 0 rewrittenDirent)
  else if offset = 52 then some (inodeNode 52 firstNode)
  else if offset = 164 then some (inodeNode 164 newer) else none

/-- A body with the entry, the first node and a newer one, and no magic word at any other offset, is read
as these three nodes. -/
theorem parseJffs2_updated (newer : Inode) {body : Bytes} {words : Nat} (hlen : body.length = 4 * words)
    (hroom : body.length ≤ 256 ∧ 164 + (encodedInode newer).length ≤ body.length)
    (hfits : rewrittenDirent.Fits ∧ firstNode.Fits ∧ newer.Fits)
    (hslices : slice body 0 50 = encodedDirent rewrittenDirent ∧
      slice body 52 164 = encodedInode firstNode ∧
      slice body 164 (164 + (encodedInode newer).length) = encodedInode newer)
    (hquiet : noMagicBut [0, 52, 164] 0 body = true) :
    parseJffs2 (laidOut body) =
      .ok (((List.range words).map (4 * ·)).filterMap (updatedAt newer)) := by
  have hsize : CONFIG_SIZE = 0x20000 := rfl
  have hlaid : (laidOut body).length = CONFIG_SIZE := length_laidOut (by omega)
  obtain ⟨hshort, hlast⟩ := hroom
  have hfirstLength : (encodedInode firstNode).length = 112 := by rw [length_encodedInode]; rfl
  have hnewerLength := length_encodedInode newer
  obtain ⟨hdirentFits, hfirstFits, hnewerFits⟩ := hfits
  obtain ⟨hdirent, hfirst, hnewer⟩ := hslices
  have read {i j : Nat} (h : j ≤ body.length) : slice (laidOut body) i j = slice body i j :=
    slice_laidOut_body h
  refine parseJffs2_laidOut hlen (by omega) fun k hk => ?_
  by_cases h0 : k = 0
  · rw [h0]
    apply parseNodeAt_encodedDirent hdirentFits
    rw [length_encodedDirent]
    exact (read (by show 0 + (40 + 10) ≤ _; omega)).trans hdirent
  · by_cases h13 : k = 13
    · rw [h13]
      apply parseNodeAt_encodedInode hfirstFits
      rw [hfirstLength]
      exact (read (by omega)).trans hfirst
    · by_cases h41 : k = 41
      · rw [h41]
        apply parseNodeAt_encodedInode hnewerFits
        exact (read hlast).trans hnewer
      · rw [updatedAt, if_neg (by omega), if_neg (by omega), if_neg (by omega)]
        apply parseNodeAt_of_magic_ne (by omega)
        rw [u16, read (by omega)]
        have hout : 0 + 4 * k ∉ [0, 52, 164] := by
          simp only [List.mem_cons, List.not_mem_nil, or_false]
          omega
        exact magic_ne_of_noMagicBut hquiet (by omega) hout

theorem length_updatedBody (newer : Inode) (gap : Bytes) :
    (updatedBody newer gap).length = 232 + newer.payload.length + gap.length := by
  simp only [updatedBody, List.length_append, length_encodedDirent, length_encodedInode]
  show 40 + 10 + 2 + (68 + 44) + (68 + newer.payload.length) + gap.length = _
  omega

-- each of the three nodes where it lies, and no magic word at any other offset
theorem parseJffs2_rewrittenConfig : parseJffs2 rewrittenConfig = .ok rewrittenNodes := by
  have hlen : rewrittenBody.length = 4 * 59 := length_updatedBody rewriteNode [0xFF, 0xFF, 0xFF]
  have hlast : (encodedInode rewriteNode).length = 69 := by rw [length_encodedInode]; rfl
  have hslices : slice rewrittenBody 0 50 = encodedDirent rewrittenDirent ∧
      slice rewrittenBody 52 164 = encodedInode firstNode ∧
      slice rewrittenBody 164 233 = encodedInode rewriteNode := by decide +kernel
  refine (parseJffs2_updated rewriteNode hlen (by omega) (by decide +kernel) ?_ (by decide +kernel)).trans rfl
  rw [hlast]
  exact hslices

theorem parseJffs2_touchedConfig : parseJffs2 touchedConfig = .ok (updatedNodes touchNode) := by
  have hlen : touchedBody.length = 4 * 58 := length_updatedBody touchNode []
  have hlast : (encodedInode touchNode).length = 68 := by rw [length_encodedInode]; rfl
  have hslices : slice touchedBody 0 50 = encodedDirent rewrittenDirent ∧
      slice touchedBody 52 164 = encodedInode firstNode ∧
      slice touchedBody 164 232 = encodedInode touchNode := by decide +kernel
  refine (parseJffs2_updated touchNode hlen (by omega) (by decide +kernel) ?_ (by decide +kernel)).trans rfl
  rw [hlast]
  exact hslices

def rewrittenMap : DirentMap := [((1, SERIAL_CFG), rewrittenDirent)]

/-- What the serial-only path reports for either partition. -/
def updatedInfo (newer : Inode) : ConfigInfo :=
  configInfo (updatedNodes newer) wholeSerial (slice wholeSerial 7 43) .liveCurrent none

theorem extract_rewrittenConfig (allow : Bool) :
    extractSerialAndConfigInfo codecs rewrittenConfig allow false = .ok (updatedInfo rewriteNode) :=
  (extractSerialAndConfigInfo_eq_ok codecs).mpr
    ⟨rewrittenNodes, rewrittenMap, wholeSerial, .liveCurrent, _, none,
      parseJffs2_rewrittenConfig, by decide, .inl rfl, rfl, rfl, rfl, rfl, rfl⟩

theorem extract_touchedConfig (allow : Bool) :
    extractSerialAndConfigInfo codecs touchedConfig allow false = .ok (updatedInfo touchNode) :=
  (extractSerialAndConfigInfo_eq_ok codecs).mpr
    ⟨updatedNodes touchNode, rewrittenMap, wholeSerial, .liveCurrent, _, none,
      parseJffs2_touchedConfig, by decide, .inl rfl, rfl, rfl, rfl, rfl, rfl⟩

def rewrittenFile : ConfigFile :=
  { name := SERIAL_CFG, data := rewrittenSerial, inode := 2, mode := 0x81A4, uid := 0, gid := 0
    atime := 18, mtime := 18, ctime := 18, flags := 0, direntMctime := 1, dtype := 8 }

def touchedFile : ConfigFile := { rewrittenFile with data := wholeSerial, mtime := 19, ctime := 19 }

theorem reconstructFile_rewritten :
    reconstructFile plainCodecs rewrittenNodes SERIAL_CFG rewrittenDirent [] = .ok rewrittenFile := by
  decide +kernel

theorem reconstructFile_touched :
    reconstructFile plainCodecs (updatedNodes touchNode) SERIAL_CFG rewrittenDirent [] =
      .ok touchedFile := by
  decide +kernel

/-- The selected serial is not the live one: a newer fragment rewrote the file. -/
theorem serialPayload_stale :
    rewrittenConfig.length = CONFIG_SIZE ∧
      ∃ info map dirent file,
        extractSerialAndConfigInfo plainCodecs rewrittenConfig false false = .ok info ∧
        currentDirents info.nodes = .ok map ∧ (liveEntries map).lookup SERIAL_CFG = some dirent ∧
        dirent.inode ≠ 0 ∧
        reconstructFile plainCodecs info.nodes SERIAL_CFG dirent [] = .ok file ∧
        info.serialPayload ≠ file.data := by
  refine ⟨length_laidOut ?_, updatedInfo rewriteNode, rewrittenMap, rewrittenDirent, rewrittenFile,
    extract_rewrittenConfig plainCodecs false, rfl, rfl, by decide, reconstructFile_rewritten, ?_⟩
  · rw [rewrittenBody, length_updatedBody]
    decide
  · show wholeSerial ≠ rewrittenSerial
    decide

/-- The rewriting node alters the serial, and the path is wrong; the touching one does not, and it is
right. -/
theorem serialPayload_is_live_iff_updated :
    (¬∃ base newer, Unaltered plainCodecs base newer ∧
      (NewestSerial rewrittenNodes 2 base newer ∨
        HistoricalSerial plainCodecs rewrittenNodes 2 base newer)) ∧
      (updatedInfo touchNode).serialPayload = touchedFile.data := by
  refine ⟨fun hkept => ?_, ?_⟩
  · have hstale := (serialPayload_is_live_iff plainCodecs (extract_rewrittenConfig plainCodecs false) rfl
      (rfl : (liveEntries rewrittenMap).lookup SERIAL_CFG = some rewrittenDirent)
      reconstructFile_rewritten).mpr hkept
    exact absurd (hstale : wholeSerial = rewrittenSerial) (by decide)
  · have htouched : Unaltered plainCodecs firstNode [touchNode] :=
      unaltered_of_noData plainCodecs (by decide)
    exact (serialPayload_is_live_iff plainCodecs (extract_touchedConfig plainCodecs false) rfl
      (rfl : (liveEntries rewrittenMap).lookup SERIAL_CFG = some rewrittenDirent)
      reconstructFile_touched).mpr
        ⟨firstNode, [touchNode], htouched, .inl ⟨⟨[], rfl⟩, by decide, by decide⟩⟩

end Cc2Camera.Image
