/-
**What a written line says.**

`processSdp` searches every line for all of its patterns. In a line that `getSdp` writes, it finds the one that the line
begins with and no other, when what is written into the line has no `=` (`find_tagged`). So the line says what that pattern
is for, and `SAVPF` wherever it stands (`says_of_tagged`). The fields are the pieces the line is cut into.

A line may be followed by a carriage return: `ending` is what follows it.
-/

import Erizo.Library.Marked
import Erizo.Proof.CandidateText
import Erizo.Proof.LineEndings

namespace Erizo

namespace SdpInfo

open Library Library.Marked StringUtil Reading

/-! ### Texts without some characters -/

/-- None of some characters is in a text. -/
def Without (forbidden text : Text) : Prop := ∀ character ∈ text, character ∉ forbidden

instance (forbidden text : Text) : Decidable (Without forbidden text) :=
  List.decidableBAll (fun character => character ∉ forbidden) text

section Without

variable {forbidden other text first second : Text}

theorem Without.mono (without : Without forbidden text) (fewer : other ⊆ forbidden) : Without other text :=
  fun character member here => without character member (fewer here)

theorem Without.append (one : Without forbidden first) (two : Without forbidden second) :
    Without forbidden (first ++ second) := by
  intro character member
  rcases List.mem_append.mp member with left | right
  · exact one character left
  · exact two character right

theorem Without.notMem {character : Char} (without : Without forbidden text) (among : character ∈ forbidden) :
    character ∉ text := fun member => without character member among

/-- A number is written with digits and a sign. -/
theorem without_toText (number : ℤ) (neither : forbidden.all fun character => !character.isDigit && character != '-') :
    Without forbidden (toText number) := by
  have digits : ∀ number, Without forbidden (Nat.toDigits 10 number) := fun number character member here => by
    have other := List.all_eq_true.mp neither character here
    rw [isDigit_of_mem_toDigits member] at other
    exact (nomatch other)
  cases number with
  | ofNat number => exact digits number
  | negSucc number =>
      have sign := fun here => List.all_eq_true.mp neither '-' here
      exact List.forall_mem_cons.mpr ⟨fun here => absurd (sign here) (by decide), digits (number + 1)⟩

/-- **A text of pieces and delimiters, cut at most so often.** -/
theorem splitOneOf_segments {delims : Text} {maxSplits : ℕ} (segments : List (Text × Char)) {last : Text}
    (written : text = (segments.flatMap fun segment => segment.1 ++ [segment.2]) ++ last)
    (delimits : ∀ segment ∈ segments, segment.2 ∈ delims) (free : ∀ segment ∈ segments, Without delims segment.1)
    (few : maxSplits = 0 ∨ segments.length ≤ maxSplits) (remains : last ≠ [])
    (whole : Without delims last ∨ maxSplits ≠ 0 ∧ segments.length = maxSplits) :
    splitOneOf text delims maxSplits = segments.map Prod.fst ++ [last] := by
  rw [written]
  refine Cut.split_segments_within (fun segment member => decide_eq_true (delimits segment member))
    (fun segment member character here => decide_eq_false (free segment member character here)) ?_ remains ?_
  · intro bound bounded
    split_ifs at bounded with unlimited
    · exact absurd bounded (Option.not_mem_none _)
    · cases bounded
      exact few.resolve_left unlimited
  · rcases whole with lastFree | ⟨limited, full⟩
    · exact Or.inl fun character here => decide_eq_false (lastFree character here)
    · exact Or.inr (by rw [if_neg limited, full])

/-- The same, where the last piece has its delimiter too. -/
theorem splitOneOf_terminated {delims : Text} {maxSplits : ℕ} (segments : List (Text × Char))
    (written : text = segments.flatMap fun segment => segment.1 ++ [segment.2])
    (delimits : ∀ segment ∈ segments, segment.2 ∈ delims) (free : ∀ segment ∈ segments, Without delims segment.1)
    (few : maxSplits = 0 ∨ segments.length ≤ maxSplits) : splitOneOf text delims maxSplits = segments.map Prod.fst := by
  have cut := @Cut.fold_segments Char (fun character => decide (character ∈ delims))
    (if maxSplits = 0 then none else some maxSplits) segments
      (fun segment member => decide_eq_true (delimits segment member))
    (fun segment member character here => decide_eq_false (free segment member character here)) [] fun bound bounded => by
      split_ifs at bounded with unlimited
      · exact absurd bounded (Option.not_mem_none _)
      · cases bounded
        rw [List.length_nil, Nat.zero_add]
        exact few.resolve_left unlimited
  rw [written, splitOneOf, Cut.split, Cut.cut, cut, Cut.toList_nil, List.nil_append]

end Without

/-! ### Patterns -/

/-- The patterns of `processSdp` that begin a line. -/
inductive Tag
  | rtcpmux
  | recvonly
  | sendonly
  | sendrecv
  | fp
  | setup
  | group
  | video
  | audio
  | cand
  | crypto
  | iceUser
  | icePass
  | mid
  | rid
  | rtpmap
  | extmap
  | rtcpfb
  | fmtp
  | bas
  deriving DecidableEq

/-- The text of a pattern. -/
def Tag.text : Tag → Text
  | .rtcpmux => SdpInfo.rtcpmux
  | .recvonly => SdpInfo.recvonly
  | .sendonly => SdpInfo.sendonly
  | .sendrecv => SdpInfo.sendrecv
  | .fp => SdpInfo.fp
  | .setup => SdpInfo.setup
  | .group => SdpInfo.group
  | .video => SdpInfo.video
  | .audio => SdpInfo.audio
  | .cand => SdpInfo.cand
  | .crypto => SdpInfo.crypto
  | .iceUser => SdpInfo.iceUser
  | .icePass => SdpInfo.icePass
  | .mid => SdpInfo.mid
  | .rid => SdpInfo.rid
  | .rtpmap => SdpInfo.rtpmap
  | .extmap => SdpInfo.extmap
  | .rtcpfb => SdpInfo.rtcpfb
  | .fmtp => SdpInfo.fmtp
  | .bas => SdpInfo.bas

/-- All patterns. -/
def Tag.all : List Tag :=
  [.rtcpmux, .recvonly, .sendonly, .sendrecv, .fp, .setup, .group, .video, .audio, .cand, .crypto, .iceUser, .icePass, .mid,
    .rid, .rtpmap, .extmap, .rtcpfb, .fmtp, .bas]

theorem Tag.mem_all (tag : Tag) : tag ∈ Tag.all := by cases tag <;> decide

/-- The letters patterns begin with. -/
def letters : Text := "abm".toList

/-- A pattern is a letter, a mark and what follows. -/
theorem Tag.text_eq (tag : Tag) : ∃ letter ∈ letters, ∃ rest, tag.text = letter :: '=' :: rest := by
  cases tag <;> exact ⟨_, by decide, _, rfl⟩

/-- A beginning of lines tells the pattern from all the others. -/
def Settles (header : Text) (own : Option Tag) : Prop :=
  ∀ tag ∈ Tag.all, if own = some tag then tag.text <+: header else differ tag.text header = true

instance (header : Text) (own : Option Tag) : Decidable (Settles header own) :=
  inferInstanceAs
    (Decidable (∀ tag ∈ Tag.all, if own = some tag then tag.text <+: header else differ tag.text header = true))

/-- A pattern alone is found in a line, or none is. -/
def Tagged (line : Text) (own : Option Tag) : Prop := ∀ tag : Tag, line.find tag.text = decide (own = some tag)

/-- **The pattern of a line** is the one of its beginning, when no mark behind it stands behind a letter. -/
theorem find_tagged {header body : Text} {own : Option Tag} (settles : Settles header own) (marked : header[1]? = some '=')
    (clean : Clean letters '=' (header.drop 2 ++ body)) : Tagged (header ++ body) own := by
  intro tag
  refine decide_eq_decide.mpr ?_
  have settled := settles tag tag.mem_all
  obtain ⟨first, among, rest, same⟩ := tag.text_eq
  have mark : first ≠ '=' := by
    rintro rfl
    exact absurd among (by decide)
  have search : tag.text <:+: header ++ body ↔ tag.text <+: header ++ body := by
    obtain - | ⟨letter, - | ⟨second, tail⟩⟩ := header
    · exact (nomatch marked)
    · exact (nomatch marked)
    · obtain rfl : second = '=' := Option.some_injective _ marked
      rw [same]
      exact infix_iff_prefix mark (clean first among)
  rw [search]
  split_ifs at settled with here
  · exact iff_of_true (settled.trans (List.prefix_append _ _)) here
  · exact iff_of_false (not_prefix_of_differ settled body) here

/-- What is not in the fields of a line. -/
def marks : Text := "=\n".toList

/-- A beginning of lines with a single mark. -/
structure Begins (header : Text) (own : Option Tag) : Prop where
  settles : Settles header own
  marked : header[1]? = some '='
  unmarked : '=' ∉ header.drop 2
  unbroken : '\n' ∉ header

instance (header : Text) (own : Option Tag) : Decidable (Begins header own) :=
  decidable_of_iff (Settles header own ∧ header[1]? = some '=' ∧ '=' ∉ header.drop 2 ∧ '\n' ∉ header)
    ⟨fun ⟨settles, marked, unmarked, unbroken⟩ => ⟨settles, marked, unmarked, unbroken⟩,
      fun ⟨settles, marked, unmarked, unbroken⟩ => ⟨settles, marked, unmarked, unbroken⟩⟩

/-- What the lines of a pattern begin with when they are written. -/
def Tag.header : Tag → Text
  | .fp => "a=fingerprint:sha-256 ".toList
  | .iceUser => "a=ice-ufrag:".toList
  | .icePass => "a=ice-pwd:".toList
  | .mid => "a=mid:".toList
  | .rid => "a=rid:".toList
  | tag => tag.text

/-- **No pattern is mistaken for another.** -/
theorem Tag.begins (tag : Tag) : Begins tag.header (some tag) :=
  (by decide +kernel : ∀ tag ∈ Tag.all, Begins tag.header (some tag)) tag tag.mem_all

/-- What the lines begin with that are not read for anything. -/
def unread : List Text :=
  ["v=0".toList, "o=- 0 0 IN IP4 127.0.0.1".toList, "s=LicodeMCU".toList, "t=0 0".toList, "a=msid-semantic: WMS ".toList,
    "c=IN IP4 0.0.0.0".toList, "a=rtcp:1 IN IP4 0.0.0.0".toList, "a=simulcast: ".toList]

theorem begins_unread {header : Text} (listed : header ∈ unread) : Begins header none :=
  (by decide +kernel : ∀ header ∈ unread, Begins header none) header listed

/-- The same, for a line without marks behind its beginning. -/
theorem Begins.tagged {header body : Text} {own : Option Tag} (begins : Begins header own) (absent : Without marks body) :
    Tagged (header ++ body) own :=
  find_tagged begins.settles begins.marked
    (clean_of_notMem fun member => (List.mem_append.mp member).elim begins.unmarked (absent.notMem (by decide)))

theorem Begins.found {header body : Text} {tag : Tag} (begins : Begins header (some tag)) (absent : Without marks body) :
    (header ++ body).find tag.text = true :=
  (begins.tagged absent tag).trans (decide_eq_true rfl)

/-! ### What the lines of a pattern say -/

/-- Updates, but for those of the profile. -/
def spoken (updates : List Update) : List Update := updates.filter (· ≠ .profile)

@[simp] theorem spoken_nil : spoken [] = [] := rfl

@[simp] theorem spoken_cons (update : Update) (updates : List Update) :
    spoken (update :: updates) = if update = .profile then spoken updates else update :: spoken updates := by
  rw [spoken, List.filter_cons]
  split_ifs <;> simp_all [spoken]

@[simp] theorem spoken_append (first second : List Update) : spoken (first ++ second) = spoken first ++ spoken second :=
  List.filter_append first second

@[simp] theorem spoken_profileUpdates (line : Text) : spoken (profileUpdates line) = [] := by
  unfold profileUpdates
  split_ifs <;> rfl

section Tagged

variable (unset : Uninitialised) {line : Text} {own : Option Tag} (mtype : MediaType) (mlineNum : ℤ)

/-- What a line of a pattern is read for. -/
def taggedUpdates (line : Text) : Option Tag → Option (List Update)
  | none => some []
  | some .rtcpmux => some [.rtcpMux]
  | some .recvonly => some [.direction mtype .recvonly]
  | some .sendonly => some [.direction mtype .sendonly]
  | some .sendrecv => some [.direction mtype .sendrecv]
  | some .fp => fingerprintUpdates line
  | some .setup => setupUpdates line
  | some .group => groupUpdates line
  | some .video => some [.videoMLine (mlineNum + 1)]
  | some .audio => some [.audioMLine (mlineNum + 1)]
  | some .cand => candidateUpdates unset line mtype
  | some .crypto => cryptoUpdates line mtype
  | some .iceUser => credentialUpdates line mtype iceUser .username
  | some .icePass => credentialUpdates line mtype icePass .password
  | some .mid => some (midUpdates line mtype)
  | some .rid => ridUpdates line mtype
  | some .rtpmap => rtpmapUpdates line mtype
  | some .extmap => extMapUpdates line mtype
  | some .rtcpfb => feedbackUpdates line
  | some .fmtp => fmtpUpdates line mtype
  | some .bas => some (bandwidthUpdates line mtype)

/-- **What a line says is what its pattern is for.** -/
theorem says_of_tagged (tagged : Tagged line own) : (updatesOf unset line mtype mlineNum).map spoken =
    (taggedUpdates unset mtype mlineNum line own).map spoken := by
  have absent : ∀ tag : Tag, own ≠ some tag → ¬ line.find tag.text = true := fun tag other => by
    rw [tagged tag, decide_eq_false other]
    exact Bool.false_ne_true
  have fp : own ≠ some .fp → fingerprintUpdates line = some [] := fun other => if_neg (absent .fp other)
  have setup : own ≠ some .setup → setupUpdates line = some [] := fun other => if_neg (absent .setup other)
  have group : own ≠ some .group → groupUpdates line = some [] := fun other => if_neg (absent .group other)
  have cand : ∀ mtype, own ≠ some .cand → candidateUpdates unset line mtype = some [] :=
    fun mtype other => if_neg (absent .cand other)
  have crypto : ∀ mtype, own ≠ some .crypto → cryptoUpdates line mtype = some [] :=
    fun mtype other => if_neg (absent .crypto other)
  have iceUser : ∀ mtype, own ≠ some .iceUser → credentialUpdates line mtype iceUser .username = some [] :=
    fun mtype other => if_neg (absent .iceUser other)
  have icePass : ∀ mtype, own ≠ some .icePass → credentialUpdates line mtype icePass .password = some [] :=
    fun mtype other => if_neg (absent .icePass other)
  have mid : ∀ mtype, own ≠ some .mid → midUpdates line mtype = [] := fun mtype other => if_neg (absent .mid other)
  have rid : ∀ mtype, own ≠ some .rid → ridUpdates line mtype = some [] := fun mtype other => if_neg (absent .rid other)
  have rtpmap : ∀ mtype, own ≠ some .rtpmap → rtpmapUpdates line mtype = some [] :=
    fun mtype other => if_neg (absent .rtpmap other)
  have extmap : ∀ mtype, own ≠ some .extmap → extMapUpdates line mtype = some [] :=
    fun mtype other => if_neg (absent .extmap other)
  have rtcpfb : own ≠ some .rtcpfb → feedbackUpdates line = some [] := fun other => if_neg (absent .rtcpfb other)
  have bas : ∀ mtype, own ≠ some .bas → bandwidthUpdates line mtype = [] := fun mtype other => if_neg (absent .bas other)
  have fmtp : ∀ mtype, own ≠ some .fmtp → fmtpUpdates line mtype = some (bandwidthUpdates line mtype) :=
    fun mtype other => if_neg (absent .fmtp other)
  unfold updatesOf sessionUpdates attributeUpdates rtcpMuxUpdates directionUpdates mlineUpdates mlinesOf mediaAfter
  rw [show line.find rtcpmux = _ from tagged .rtcpmux, show line.find recvonly = _ from tagged .recvonly,
    show line.find sendonly = _ from tagged .sendonly, show line.find sendrecv = _ from tagged .sendrecv,
    show line.find video = _ from tagged .video, show line.find audio = _ from tagged .audio]
  rcases own with - | tag
  · simp [fp, setup, group, cand, crypto, iceUser, icePass, mid, rid, rtpmap, extmap, rtcpfb, bas, fmtp, taggedUpdates]
  · cases tag <;> simp [fp, setup, group, cand, crypto, iceUser, icePass, mid, rid, rtpmap, extmap, rtcpfb, bas, fmtp,
      taggedUpdates, Option.map_eq_bind, Option.bind_assoc]

end Tagged

/-! ### The lines of a section -/

section Lines

variable (unset : Uninitialised) (mtype : MediaType)

/-- In a section a line says some updates, and the section goes on. -/
structure Tells (line : Text) (updates : List Update) : Prop where
  unbroken : '\n' ∉ line
  media : mediaAfter line mtype = mtype
  mlines : mlinesOf line = 0
  said : ∀ mlineNum, (updatesOf unset line mtype mlineNum).map spoken = some updates

variable {unset mtype}

/-- A line that has no pattern of an `m=` line. -/
theorem Tagged.tells {line : Text} {own : Option Tag} {updates : List Update} (tagged : Tagged line own)
    (unbroken : '\n' ∉ line)
    (inside : own ≠ some .audio ∧ own ≠ some .video)
    (said : ∀ mlineNum, taggedUpdates unset mtype mlineNum line own = some updates)
    (quiet : spoken updates = updates) : Tells unset mtype line updates := by
  have audio : ¬ line.find SdpInfo.audio = true := by
    rw [show line.find SdpInfo.audio = _ from tagged .audio, decide_eq_false inside.1]
    exact Bool.false_ne_true
  have video : ¬ line.find SdpInfo.video = true := by
    rw [show line.find SdpInfo.video = _ from tagged .video, decide_eq_false inside.2]
    exact Bool.false_ne_true
  refine ⟨unbroken, ?_, ?_, fun mlineNum => ?_⟩
  · rw [mediaAfter, if_neg audio, if_neg video]
  · rw [mlinesOf, if_neg audio, if_neg video, add_zero]
  · rw [says_of_tagged unset mtype mlineNum tagged, said mlineNum, Option.map_some, quiet]

theorem Begins.unbroken_append {header body : Text} {own : Option Tag} (begins : Begins header own)
    (absent : Without marks body) : '\n' ∉ header ++ body :=
  fun member => (List.mem_append.mp member).elim begins.unbroken (absent.notMem (by decide))

/-- A line without marks behind its beginning. -/
theorem Begins.tells {header body : Text} {own : Option Tag} {updates : List Update} (begins : Begins header own)
    (absent : Without marks body) (inside : own ≠ some .audio ∧ own ≠ some .video)
    (said : ∀ mlineNum, taggedUpdates unset mtype mlineNum (header ++ body) own = some updates)
    (quiet : spoken updates = updates) : Tells unset mtype (header ++ body) updates :=
  (begins.tagged absent).tells (begins.unbroken_append absent) inside said quiet

/-- What may follow a line. -/
def Ending (ending : Text) : Prop := ending = [] ∨ ending = "\r".toList

variable {ending : Text}

theorem Ending.without (ends : Ending ending) {forbidden : Text} (free : '\r' ∉ forbidden) : Without forbidden ending := by
  rcases ends with rfl | rfl
  · exact fun _ member => absurd member List.not_mem_nil
  · exact List.forall_mem_singleton.mpr free

theorem Ending.unmarked (ends : Ending ending) : Without marks ending := ends.without (by decide)

/-- A text and what follows its line. -/
theorem Without.ended {forbidden fewer text : Text} (free : Without forbidden text) (ends : Ending ending)
    (among : fewer ⊆ forbidden) (kept : '\r' ∉ fewer) : Without fewer (text ++ ending) :=
  (free.mono among).append (ends.without kept)

/-- A line that is not read for anything. -/
theorem tells_nothing {header body : Text} (begins : Begins header none) (absent : Without marks body)
    (ends : Ending ending) :
    Tells unset mtype (header ++ body ++ ending) [] := by
  rw [List.append_assoc]
  exact begins.tells (absent.append ends.unmarked) ⟨nofun, nofun⟩ (fun _ => rfl) rfl

/-- A line that is a pattern. -/
theorem tells_pattern {header : Text} {own : Tag} {update : Update} (begins : Begins header (some own))
    (inside : own ≠ .audio ∧ own ≠ .video)
    (said : ∀ line mlineNum, taggedUpdates unset mtype mlineNum line (some own) = some [update]) (loud : update ≠ .profile)
    (ends : Ending ending) : Tells unset mtype (header ++ ending) [update] := by
  refine begins.tells ends.unmarked ⟨by simpa using inside.1, by simpa using inside.2⟩
    (fun mlineNum => said _ mlineNum) ?_
  simp [loud]

/-- A fingerprint. -/
theorem tells_fingerprint {fingerprint : Text} (present : fingerprint ≠ []) (free : Without " =\n".toList fingerprint)
    (ends : Ending ending) : Tells unset mtype ("a=fingerprint:sha-256 ".toList ++ fingerprint ++ ending)
      [.fingerprint (fingerprint ++ ending)] := by
  rw [List.append_assoc]
  have begins : Begins "a=fingerprint:sha-256 ".toList (some .fp) := Tag.begins .fp
  have absent : Without marks (fingerprint ++ ending) := free.ended ends (by decide) (by decide)
  refine begins.tells absent ⟨nofun, nofun⟩ (fun _ => ?_) rfl
  have parts : splitOneOf ("a=fingerprint:sha-256 ".toList ++ (fingerprint ++ ending)) ":".toList 1 =
      ["a=fingerprint".toList, "sha-256 ".toList ++ (fingerprint ++ ending)] :=
    splitOneOf_segments [("a=fingerprint".toList, ':')] (by simp) (by decide) (by decide) (Or.inr (by decide)) (by simp)
      (Or.inr (by decide))
  have pieces : splitOneOf ("sha-256 ".toList ++ (fingerprint ++ ending)) " ".toList 0 =
      ["sha-256".toList, fingerprint ++ ending] :=
    splitOneOf_segments [("sha-256".toList, ' ')] (by simp) (by decide) (by decide) (Or.inl rfl) (by simp [present])
      (Or.inl (free.ended ends (by decide) (by decide)))
  rw [taggedUpdates, fingerprintUpdates, if_pos (show Text.find _ fp = true from begins.found absent), parts]
  simp only [List.getElem?_cons_succ, List.getElem?_cons_zero, Option.bind_eq_bind, Option.bind_some, pieces]

/-- The line of a role. -/
def setupText : DtlsRole → Text
  | .actpass => "a=setup:actpass".toList
  | .passive => "a=setup:passive".toList
  | .active => "a=setup:active".toList

theorem tells_setup (role : DtlsRole) (ends : Ending ending) :
    Tells unset mtype (setupText role ++ ending) [.dtlsRole role] := by
  have line : setupText role ++ ending = "a=setup:".toList ++ ((setupText role).drop 8 ++ ending) := by cases role <;> rfl
  have begins : Begins "a=setup:".toList (some .setup) := Tag.begins .setup
  have absent : Without marks ((setupText role).drop 8 ++ ending) :=
    Without.append (by cases role <;> decide) ends.unmarked
  rw [line]
  refine begins.tells absent ⟨nofun, nofun⟩ (fun _ => ?_) rfl
  rw [taggedUpdates, setupUpdates, if_pos (show Text.find _ setup = true from begins.found absent)]
  rcases ends with rfl | rfl <;> cases role <;> decide

/-- The line of a direction. -/
def directionLine : StreamDirection → Text
  | .sendonly => "a=sendonly".toList
  | .sendrecv => "a=sendrecv".toList
  | .recvonly => "a=recvonly".toList

theorem tells_direction (direction : StreamDirection) (ends : Ending ending) :
    Tells unset mtype (directionLine direction ++ ending) [.direction mtype direction] := by
  cases direction with
  | sendonly =>
      exact @tells_pattern unset mtype ending _ .sendonly _ (Tag.begins .sendonly) ⟨nofun, nofun⟩
        (fun _ _ => rfl) nofun ends
  | sendrecv =>
      exact @tells_pattern unset mtype ending _ .sendrecv _ (Tag.begins .sendrecv) ⟨nofun, nofun⟩
        (fun _ _ => rfl) nofun ends
  | recvonly =>
      exact @tells_pattern unset mtype ending _ .recvonly _ (Tag.begins .recvonly) ⟨nofun, nofun⟩
        (fun _ _ => rfl) nofun ends

theorem tells_rtcpMux (ends : Ending ending) : Tells unset mtype ("a=rtcp-mux".toList ++ ending) [.rtcpMux] :=
  @tells_pattern unset mtype ending _ .rtcpmux _ (Tag.begins .rtcpmux) ⟨nofun, nofun⟩ (fun _ _ => rfl) nofun ends

/-- What a credential is cut from. -/
theorem credentialUpdates_written {header value : Text} {pattern : Text} (update : MediaType → Text → Update)
    (found : (header ++ ":".toList ++ (value ++ ending)).find pattern = true) (free : Without ":".toList header)
    (present : value ≠ []) (unbroken : '\r' ∉ value) (ends : Ending ending) :
    credentialUpdates (header ++ ":".toList ++ (value ++ ending)) mtype pattern update = some [update mtype value] := by
  have parts : splitOneOf (header ++ ":".toList ++ (value ++ ending)) ":".toList 1 = [header, value ++ ending] :=
    splitOneOf_segments [(header, ':')] (by simp) (by simp) (List.forall_mem_singleton.mpr free) (Or.inr le_rfl)
      (by simp [present]) (Or.inr ⟨one_ne_zero, rfl⟩)
  have pieces : splitOneOf (value ++ ending) "\r".toList 1 = [value] := by
    rcases ends with rfl | rfl
    · rw [List.append_nil]
      exact (splitOneOf_cr unbroken present).2
    · exact (splitOneOf_cr unbroken present).1
  rw [credentialUpdates, if_pos found, parts]
  simp only [List.getElem?_cons_succ, List.getElem?_cons_zero, Option.bind_eq_bind, Option.bind_some, pieces]

/-- A user name. -/
theorem tells_username {username : Text} (present : username ≠ []) (free : Without "=\r\n".toList username)
    (ends : Ending ending) : Tells unset mtype ("a=ice-ufrag:".toList ++ username ++ ending)
      [.username mtype username] := by
  rw [List.append_assoc]
  have begins : Begins "a=ice-ufrag:".toList (some .iceUser) := Tag.begins .iceUser
  have absent : Without marks (username ++ ending) := free.ended ends (by decide) (by decide)
  refine begins.tells absent ⟨nofun, nofun⟩ (fun _ => ?_) rfl
  exact @credentialUpdates_written mtype ending "a=ice-ufrag".toList username iceUser .username (begins.found absent)
    (by decide) present (free.notMem (by decide)) ends

/-- A password. -/
theorem tells_password {password : Text} (present : password ≠ []) (free : Without "=\r\n".toList password)
    (ends : Ending ending) : Tells unset mtype ("a=ice-pwd:".toList ++ password ++ ending) [.password mtype password] := by
  rw [List.append_assoc]
  have begins : Begins "a=ice-pwd:".toList (some .icePass) := Tag.begins .icePass
  have absent : Without marks (password ++ ending) := free.ended ends (by decide) (by decide)
  refine begins.tells absent ⟨nofun, nofun⟩ (fun _ => ?_) rfl
  exact @credentialUpdates_written mtype ending "a=ice-pwd".toList password icePass .password (begins.found absent)
    (by decide) present (free.notMem (by decide)) ends

/-- A header extension, which loses its last character when nothing follows it. -/
theorem tells_extMap {uri : Text} (value : UInt32) (present : uri ≠ []) (free : Without marks uri) (ends : Ending ending) :
    Tells unset mtype ("a=extmap:".toList ++ toText value.toNat ++ " ".toList ++ uri ++ ending)
      [.extmap ⟨value, (uri ++ ending).dropLast, mtype⟩] := by
  have begins : Begins "a=extmap:".toList (some .extmap) := Tag.begins .extmap
  have absent : Without marks (toText value.toNat ++ (" ".toList ++ (uri ++ ending))) :=
    (without_toText _ (by decide)).append ((by decide : Without marks " ".toList).append
      (free.append ends.unmarked))
  have line : "a=extmap:".toList ++ toText value.toNat ++ " ".toList ++ uri ++ ending =
      "a=extmap:".toList ++ (toText value.toNat ++ (" ".toList ++ (uri ++ ending))) := by
    simp only [List.append_assoc]
  rw [line]
  refine begins.tells absent ⟨nofun, nofun⟩ (fun _ => ?_) rfl
  have parts : splitOneOf ("a=extmap:".toList ++ (toText value.toNat ++ (" ".toList ++ (uri ++ ending)))) " :=".toList 3 =
      ["a".toList, "extmap".toList, toText value.toNat, uri ++ ending] := by
    refine splitOneOf_segments [("a".toList, '='), ("extmap".toList, ':'), (toText value.toNat, ' ')] (by simp) (by simp) ?_
      (Or.inr (by simp)) (by simp [present]) (Or.inr (by simp))
    simp only [List.forall_mem_cons]
    exact ⟨by decide, by decide, without_toText _ (by decide), fun _ member => absurd member List.not_mem_nil⟩
  rw [taggedUpdates, extMapUpdates, if_pos (show Text.find _ extmap = true from begins.found absent), parts,
    if_pos (by simp)]
  simp only [List.getElem?_cons_succ, List.getElem?_cons_zero, Option.bind_eq_bind, Option.bind_some, toUnsigned_toText_nat]

/-- A bundle tag. -/
theorem tells_mid {id : Text} (present : id ≠ []) (free : Without " :=\r\n".toList id) (ends : Ending ending) :
    Tells unset mtype ("a=mid:".toList ++ id ++ ending) [.mid id mtype] := by
  rw [List.append_assoc]
  have begins : Begins "a=mid:".toList (some .mid) := Tag.begins .mid
  have absent : Without marks (id ++ ending) := free.ended ends (by decide) (by decide)
  refine begins.tells absent ⟨nofun, nofun⟩ (fun _ => ?_) rfl
  have part : (splitOneOf ("a=mid:".toList ++ (id ++ ending)) ": \r\n".toList 4)[1]? = some id := by
    rcases ends with rfl | rfl
    · rw [@splitOneOf_segments _ ": \r\n".toList 4 [("a=mid".toList, ':')] id (by simp) (by decide) (by decide)
        (Or.inr (by decide)) present (Or.inl (free.mono (by decide)))]
      rfl
    · rw [@splitOneOf_terminated _ ": \r\n".toList 4 [("a=mid".toList, ':'), (id, '\r')] (by simp) (by simp) (by
        simp only [List.forall_mem_cons]
        exact ⟨by decide, free.mono (by decide), fun _ member => absurd member List.not_mem_nil⟩) (Or.inr (by simp))]
      rfl
  rw [taggedUpdates, midUpdates, if_pos (show Text.find _ mid = true from begins.found absent), part]
  rfl

/-- A key. -/
theorem tells_crypto {suite key : Text} (tag : ℤ) (suiteFree : Without " :=\n".toList suite) (present : key ≠ [])
    (keyFree : Without " :=\n".toList key) (ends : Ending ending) :
    Tells unset mtype ("a=crypto:".toList ++ toText tag ++ " ".toList ++ suite ++ " inline:".toList ++ key ++ ending)
      [.crypto ⟨0, suite, key ++ ending, mtype⟩] := by
  have begins : Begins "a=crypto:".toList (some .crypto) := Tag.begins .crypto
  have absent : Without marks (toText tag ++ (" ".toList ++ (suite ++ (" inline:".toList ++ (key ++ ending))))) :=
    (without_toText _ (by decide)).append ((by decide : Without marks " ".toList).append
      ((suiteFree.mono (by decide)).append ((by decide : Without marks " inline:".toList).append
        (keyFree.ended ends (by decide) (by decide)))))
  have line : "a=crypto:".toList ++ toText tag ++ " ".toList ++ suite ++ " inline:".toList ++ key ++ ending =
      "a=crypto:".toList ++ (toText tag ++ (" ".toList ++ (suite ++ (" inline:".toList ++ (key ++ ending))))) := by
    simp only [List.append_assoc]
  rw [line]
  refine begins.tells absent ⟨nofun, nofun⟩ (fun _ => ?_) rfl
  have parts : splitOneOf ("a=crypto:".toList ++ (toText tag ++ (" ".toList ++ (suite ++ (" inline:".toList ++
      (key ++ ending)))))) " :".toList 0 = ["a=crypto".toList, toText tag, suite, "inline".toList, key ++ ending] := by
    refine splitOneOf_segments [("a=crypto".toList, ':'), (toText tag, ' '), (suite, ' '), ("inline".toList, ':')] (by simp)
      (by simp) ?_ (Or.inl rfl) (by simp [present]) (Or.inl (keyFree.ended ends (by decide) (by decide)))
    simp only [List.forall_mem_cons]
    exact ⟨by decide, without_toText _ (by decide), suiteFree.mono (by decide), by decide,
      fun _ member => absurd member List.not_mem_nil⟩
  rw [taggedUpdates, cryptoUpdates, if_pos (show Text.find _ crypto = true from begins.found absent), parts]
  rfl

/-- What a restriction identifier is read from. -/
theorem ridOf_written {id : Text} (direction : RidDirection) (free : Without " ".toList id) (ends : Ending ending) :
    ridOf (id ++ (" ".toList ++ (ridDirectionText direction ++ ending))) = some ⟨id, direction⟩ := by
  have blank : Text.find (id ++ (" ".toList ++ (ridDirectionText direction ++ ending))) " ".toList = true :=
    decide_eq_true ⟨id, ridDirectionText direction ++ ending, List.append_assoc _ _ _⟩
  have part : (id ++ (" ".toList ++ (ridDirectionText direction ++ ending))).takeWhile (· ≠ ' ') = id := by
    have all : ∀ character ∈ id, decide (character ≠ ' ') = true :=
      fun character member => decide_eq_true fun same => free character member (by simp [same])
    rw [List.takeWhile_append_of_pos all]
    simp
  have rest : (id ++ (" ".toList ++ (ridDirectionText direction ++ ending))).drop (id.length + 1) =
      ridDirectionText direction ++ ending := by
    rw [← List.append_assoc]
    exact List.drop_left' (by simp)
  rw [ridOf, if_pos blank]
  simp only [part, rest]
  rcases ends with rfl | rfl <;> cases direction <;> rfl

/-- A restriction identifier of video. -/
theorem tells_rid {id : Text} (direction : RidDirection) (free : Without " :=\n".toList id) (ends : Ending ending) :
    Tells unset .video ("a=rid:".toList ++ id ++ " ".toList ++ ridDirectionText direction ++ ending)
      [.rid ⟨id, direction⟩] := by
  have begins : Begins "a=rid:".toList (some .rid) := Tag.begins .rid
  have named : ∀ {forbidden : Text}, forbidden = marks ∨ forbidden = ":".toList →
      Without forbidden (" ".toList ++ (ridDirectionText direction ++ ending)) := by
    rintro forbidden (rfl | rfl)
    · exact (by decide : Without marks " ".toList).append
        ((by cases direction <;> decide : Without marks (ridDirectionText direction)).append ends.unmarked)
    · exact (by decide : Without ":".toList " ".toList).append
        ((by cases direction <;> decide : Without ":".toList (ridDirectionText direction)).append
          (ends.without (by decide)))
  have absent : Without marks (id ++ (" ".toList ++ (ridDirectionText direction ++ ending))) :=
    (free.mono (by decide)).append (named (Or.inl rfl))
  have line : "a=rid:".toList ++ id ++ " ".toList ++ ridDirectionText direction ++ ending =
      "a=rid:".toList ++ (id ++ (" ".toList ++ (ridDirectionText direction ++ ending))) := by
    simp only [List.append_assoc]
  rw [line]
  refine begins.tells absent ⟨nofun, nofun⟩ (fun _ => ?_) rfl
  have parts : splitOneOf ("a=rid:".toList ++ (id ++ (" ".toList ++ (ridDirectionText direction ++ ending)))) ":".toList 2 =
      ["a=rid".toList, id ++ (" ".toList ++ (ridDirectionText direction ++ ending))] :=
    splitOneOf_segments [("a=rid".toList, ':')] (by simp) (by decide) (by decide) (Or.inr (by decide)) (by simp)
      (Or.inl ((free.mono (by decide)).append (named (Or.inr rfl))))
  rw [taggedUpdates, ridUpdates, if_pos (show Text.find _ rid = true from begins.found absent), if_pos rfl, parts]
  simp only [List.getElem?_cons_succ, List.getElem?_cons_zero, Option.bind_eq_bind, Option.bind_some,
    ridOf_written direction (free.mono (by decide)) ends]
  rfl

/-! ### Codecs -/

/-- The payload type of a codec is written as a number with a sign. -/
@[simp] theorem toUnsigned_payloadType (payloadType : UInt32) :
    toUnsigned (toText payloadType.toInt32.toInt) = payloadType := by
  have same := toUnsigned_toText_int payloadType.toInt32
  rwa [← Int32.toBitVec_inj, UInt32.toBitVec_toInt32, UInt32.toBitVec_toInt32, UInt32.toBitVec_inj] at same

theorem toUnsigned_ending (text : Text) (ends : Ending ending) : toUnsigned (text ++ ending) = toUnsigned text := by
  rcases ends with rfl | rfl
  · rw [List.append_nil]
  · exact toUnsigned_withCr text

/-- The first line of a codec. -/
def rtpmapText (mediaType : MediaType) (rtp : RtpMap) : Text :=
  "a=rtpmap:".toList ++ toText rtp.payloadType.toInt32.toInt ++ " ".toList ++ rtp.encodingName ++ "/".toList ++
    toText rtp.clockRate.toNat ++ if mediaType = .audio ∧ 1 < rtp.channels then "/".toList ++
      toText rtp.channels.toNat else []

/-- What a codec is cut into. -/
theorem splitOneOf_rtpmapText (mediaType : MediaType) {rtp : RtpMap} (free : Without " :/=\n".toList rtp.encodingName)
    (ends : Ending ending) : splitOneOf (rtpmapText mediaType rtp ++ ending) " :/\n".toList 4 =
      ["a=rtpmap".toList, toText rtp.payloadType.toInt32.toInt, rtp.encodingName] ++
        if mediaType = .audio ∧ 1 < rtp.channels then [toText rtp.clockRate.toNat, toText rtp.channels.toNat ++ ending]
        else [toText rtp.clockRate.toNat ++ ending] := by
  have number : ∀ number, Without " :/\n".toList (toText number) := fun number => without_toText number (by decide)
  have name : Without " :/\n".toList rtp.encodingName := free.mono (by decide)
  have present : ∀ (number : ℕ) (rest : Text), toText number ++ rest ≠ [] := fun number rest =>
    List.append_ne_nil_of_left_ne_nil (@Nat.toDigits_ne_nil number 10) _
  unfold rtpmapText
  split_ifs with several
  · refine splitOneOf_segments [("a=rtpmap".toList, ':'), (toText rtp.payloadType.toInt32.toInt, ' '),
      (rtp.encodingName, '/'), (toText rtp.clockRate.toNat, '/')] ?_ (by simp) ?_ (Or.inr le_rfl) (present _ _)
      (Or.inr ⟨by decide, rfl⟩)
    · simp only [List.flatMap_cons, List.flatMap_nil, List.append_assoc, List.append_nil]
      rfl
    · simp only [List.forall_mem_cons]
      exact ⟨by decide, number _, name, number _, fun _ member => absurd member List.not_mem_nil⟩
  · refine splitOneOf_segments [("a=rtpmap".toList, ':'), (toText rtp.payloadType.toInt32.toInt, ' '),
      (rtp.encodingName, '/')] ?_ (by simp) ?_ (Or.inr (Nat.le_succ 3)) (present _ _)
      (Or.inl ((number _).append (ends.without (by decide))))
    · simp only [List.flatMap_cons, List.flatMap_nil, List.append_assoc, List.append_nil]
      rfl
    · simp only [List.forall_mem_cons]
      exact ⟨by decide, number _, name, fun _ member => absurd member List.not_mem_nil⟩

/-- A codec. -/
theorem tells_rtpmap (mediaType : MediaType) {rtp : RtpMap} (free : Without " :/=\n".toList rtp.encodingName)
    (ends : Ending ending) : Tells unset mtype (rtpmapText mediaType rtp ++ ending)
      [.rtpmap rtp.payloadType rtp.encodingName rtp.clockRate mtype] := by
  have begins : Begins "a=rtpmap:".toList (some .rtpmap) := Tag.begins .rtpmap
  have number : ∀ number, Without marks (toText number) := fun number => without_toText number (by decide)
  have absent : Without marks (toText rtp.payloadType.toInt32.toInt ++ (" ".toList ++ (rtp.encodingName ++ ("/".toList ++
      (toText rtp.clockRate.toNat ++
        ((if mediaType = .audio ∧ 1 < rtp.channels then "/".toList ++ toText rtp.channels.toNat else []) ++
          ending)))))) := by
    refine (number _).append ((by decide : Without marks " ".toList).append ((free.mono (by decide)).append
      ((by decide : Without marks "/".toList).append ((number _).append (Without.append ?_ ends.unmarked)))))
    split_ifs
    · exact (by decide : Without marks "/".toList).append (number _)
    · exact fun _ member => absurd member List.not_mem_nil
  have pieces := splitOneOf_rtpmapText mediaType free ends
  have line : rtpmapText mediaType rtp ++ ending = "a=rtpmap:".toList ++ (toText rtp.payloadType.toInt32.toInt ++
      (" ".toList ++ (rtp.encodingName ++ ("/".toList ++ (toText rtp.clockRate.toNat ++
        ((if mediaType = .audio ∧ 1 < rtp.channels then "/".toList ++ toText rtp.channels.toNat else []) ++
          ending)))))) := by
    unfold rtpmapText
    simp only [List.append_assoc]
  rw [line] at pieces ⊢
  refine begins.tells absent ⟨nofun, nofun⟩ (fun _ => ?_) rfl
  rw [taggedUpdates, rtpmapUpdates, if_pos (show Text.find _ rtpmap = true from begins.found absent), pieces]
  split_ifs
  · simp
  · simp [toUnsigned_ending _ ends]

/-- A feedback type, which loses its last character when nothing follows it. -/
theorem tells_feedback (payloadType : UInt32) {feedback : Text} (present : feedback ≠ []) (free : Without marks feedback)
    (ends : Ending ending) :
    Tells unset mtype ("a=rtcp-fb:".toList ++ toText payloadType.toInt32.toInt ++ " ".toList ++ feedback ++ ending)
      [.feedback payloadType (feedback ++ ending).dropLast] := by
  have begins : Begins "a=rtcp-fb:".toList (some .rtcpfb) := Tag.begins .rtcpfb
  have absent : Without marks (toText payloadType.toInt32.toInt ++ (" ".toList ++ (feedback ++ ending))) :=
    (without_toText _ (by decide)).append ((by decide : Without marks " ".toList).append
      (free.append ends.unmarked))
  have line : "a=rtcp-fb:".toList ++ toText payloadType.toInt32.toInt ++ " ".toList ++ feedback ++ ending =
      "a=rtcp-fb:".toList ++ (toText payloadType.toInt32.toInt ++ (" ".toList ++ (feedback ++ ending))) := by
    simp only [List.append_assoc]
  rw [line]
  refine begins.tells absent ⟨nofun, nofun⟩ (fun _ => ?_) rfl
  have remains : feedback ++ ending ≠ [] := List.append_ne_nil_of_left_ne_nil present _
  have parts :
      splitOneOf ("a=rtcp-fb:".toList ++ (toText payloadType.toInt32.toInt ++ (" ".toList ++ (feedback ++ ending))))
      " :".toList 2 = ["a=rtcp-fb".toList, toText payloadType.toInt32.toInt, feedback ++ ending] := by
    refine splitOneOf_segments [("a=rtcp-fb".toList, ':'), (toText payloadType.toInt32.toInt, ' ')] ?_ (by simp) ?_
      (Or.inr le_rfl) remains (Or.inr ⟨by decide, rfl⟩)
    · simp only [List.flatMap_cons, List.flatMap_nil, List.append_assoc, List.append_nil]
      rfl
    · simp only [List.forall_mem_cons]
      exact ⟨by decide, without_toText _ (by decide), fun _ member => absurd member List.not_mem_nil⟩
  rw [taggedUpdates, feedbackUpdates, if_pos (show Text.find _ rtcpfb = true from begins.found absent), parts]
  simp only [List.getElem?_cons_succ, List.getElem?_cons_zero, Option.bind_eq_bind, Option.bind_some, popBack,
    if_neg remains, toUnsigned_payloadType]

/-- A parameter in an `fmtp` line. -/
def partText (parameter : Text × Text) : Text :=
  (if parameter.1 ≠ "none".toList then parameter.1 ++ "=".toList else []) ++ parameter.2

/-- A parameter that can be told from others in a line. -/
structure Spelled (parameter : Text × Text) : Prop where
  name : Without " :;=\n".toList parameter.1
  value : Without " :;=\n".toList parameter.2
  present : parameter.2 ≠ []

instance (parameter : Text × Text) : Decidable (Spelled parameter) :=
  decidable_of_iff (Without " :;=\n".toList parameter.1 ∧ Without " :;=\n".toList parameter.2 ∧ parameter.2 ≠ [])
    ⟨fun ⟨name, value, present⟩ => ⟨name, value, present⟩, fun ⟨name, value, present⟩ => ⟨name, value, present⟩⟩

/-- **A parameter is read back.** -/
theorem parameterOf_partText {parameter : Text × Text} (spelled : Spelled parameter) :
    parameterOf (partText parameter) = some parameter := by
  have value : Without "=".toList parameter.2 := spelled.value.mono (by decide)
  unfold partText
  split_ifs with named
  · have parts : splitOneOf (parameter.1 ++ "=".toList ++ parameter.2) "=".toList 40 = [parameter.1, parameter.2] :=
      splitOneOf_segments [(parameter.1, '=')] (by simp) (by simp)
        (List.forall_mem_singleton.mpr (spelled.name.mono (by decide))) (Or.inr (Nat.le_add_left 1 39)) spelled.present
        (Or.inl value)
    rw [parameterOf, parts]
  · have parts : splitOneOf ([] ++ parameter.2) "=".toList 40 = [parameter.2] :=
      splitOneOf_segments [] rfl (by simp) (by simp) (Or.inr (Nat.zero_le 40)) spelled.present (Or.inl value)
    rw [parameterOf, parts]
    exact congrArg some (Prod.ext (not_not.mp named).symm rfl)

theorem partText_ne_nil {parameter : Text × Text} (spelled : Spelled parameter) : partText parameter ≠ [] :=
  List.append_ne_nil_of_right_ne_nil _ spelled.present

theorem without_partText {parameter : Text × Text} (spelled : Spelled parameter) :
    Without " :;\n".toList (partText parameter) := by
  refine Without.append ?_ (spelled.value.mono (by decide))
  split_ifs
  · exact (spelled.name.mono (by decide)).append (by decide)
  · exact fun _ member => absurd member List.not_mem_nil

/-- The parameters that are read of those of a codec: the last one loses its last character when nothing follows it. -/
def heardParameters (ending : Text) (parameters : List (Text × Text)) : List (Text × Text) :=
  match parameters.getLast? with
  | none => []
  | some last => parameters.dropLast ++ (parameterOf (partText last ++ ending).dropLast).toList

/-- With a carriage return all parameters are read. -/
theorem heardParameters_cr {parameters : List (Text × Text)} (spelled : ∀ parameter ∈ parameters, Spelled parameter) :
    heardParameters "\r".toList parameters = parameters := by
  rcases List.eq_nil_or_concat parameters with rfl | ⟨early, last, rfl⟩
  · rfl
  · rw [List.concat_eq_append] at spelled ⊢
    have read := parameterOf_partText (spelled last (List.mem_append_right _ List.mem_cons_self))
    have kept : (partText last ++ "\r".toList).dropLast = partText last := List.dropLast_concat
    rw [heardParameters, List.getLast?_concat]
    simp only [kept, read, List.dropLast_concat, Option.toList_some]

/-- The parameters of a codec, in the line of a payload type. -/
def fmtpText (payloadType : UInt32) (parameters : List (Text × Text)) : Text :=
  "a=fmtp:".toList ++ toText payloadType.toInt32.toInt ++ " ".toList ++
    (parameters.flatMap fun parameter => partText parameter ++ ";".toList).dropLast

/-- The last delimiter is not written. -/
theorem dropLast_parts (early : List (Text × Text)) (last : Text × Text) :
    ((early ++ [last]).flatMap fun parameter => partText parameter ++ ";".toList).dropLast =
      (early.flatMap fun parameter => partText parameter ++ ";".toList) ++ partText last := by
  rw [List.flatMap_append, List.flatMap_singleton, ← List.append_assoc]
  exact List.dropLast_concat

/-- The parts of the line, each with the delimiter behind it. -/
theorem led_parts (payloadType : Text) (early : List (Text × Text)) (last ending : Text) :
    "a=fmtp:".toList ++ payloadType ++ " ".toList ++
        ((early.flatMap fun parameter => partText parameter ++ ";".toList) ++ last) ++ ending =
      ((("a=fmtp".toList, ':') :: (payloadType, ' ') :: early.map fun parameter => (partText parameter, ';')).flatMap
        fun segment => segment.1 ++ [segment.2]) ++ (last ++ ending) := by
  rw [List.flatMap_cons, List.flatMap_cons, List.flatMap_map]
  simp only [List.append_assoc]
  rfl

section Parts

variable {early : List (Text × Text)} {last : Text × Text} (spelled : ∀ parameter ∈ early ++ [last], Spelled parameter)
include spelled

/-- What the line of parameters is cut into. -/
theorem splitOneOf_fmtpText (payloadType : UInt32) (few : (early ++ [last]).length ≤ 39) (ends : Ending ending) :
    splitOneOf (fmtpText payloadType (early ++ [last]) ++ ending) " :;".toList 40 =
      "a=fmtp".toList :: toText payloadType.toInt32.toInt :: (early.map partText ++ [partText last ++ ending]) := by
  obtain ⟨earlySpelled, lastSpelled⟩ := List.forall_mem_append.mp spelled
  have lastSpelled := List.forall_mem_singleton.mp lastSpelled
  have segmentsFree : ∀ segment ∈ ("a=fmtp".toList, ':') :: (toText payloadType.toInt32.toInt, ' ') ::
      early.map fun parameter => (partText parameter, ';'), Without " :;".toList segment.1 := by
    refine List.forall_mem_cons.mpr ⟨by decide, List.forall_mem_cons.mpr ⟨without_toText _ (by decide),
      List.forall_mem_map.mpr fun parameter member => ?_⟩⟩
    exact (without_partText (earlySpelled parameter member)).mono (by decide)
  have delimits : ∀ segment ∈ ("a=fmtp".toList, ':') :: (toText payloadType.toInt32.toInt, ' ') ::
      early.map fun parameter => (partText parameter, ';'), segment.2 ∈ " :;".toList :=
    List.forall_mem_cons.mpr ⟨by simp, List.forall_mem_cons.mpr ⟨by simp, List.forall_mem_map.mpr fun _ _ => by simp⟩⟩
  have enough : (("a=fmtp".toList, ':') :: (toText payloadType.toInt32.toInt, ' ') ::
      early.map fun parameter => (partText parameter, ';')).length ≤ 40 := by
    rw [List.length_append, List.length_singleton] at few
    rw [List.length_cons, List.length_cons, List.length_map]
    omega
  have written : fmtpText payloadType (early ++ [last]) ++ ending = ((("a=fmtp".toList, ':') ::
      (toText payloadType.toInt32.toInt, ' ') :: early.map fun parameter =>
        (partText parameter, ';')).flatMap fun segment =>
        segment.1 ++ [segment.2]) ++ (partText last ++ ending) := by
    unfold fmtpText
    rw [dropLast_parts]
    exact led_parts _ early _ ending
  have parts := splitOneOf_segments _ written delimits segmentsFree (Or.inr enough)
    (List.append_ne_nil_of_left_ne_nil (partText_ne_nil lastSpelled) _)
    (Or.inl (((without_partText lastSpelled).mono (by decide)).append (ends.without (by decide))))
  rw [parts, List.map_cons, List.map_cons, List.map_map]
  rfl

/-- What is read of the parts. -/
theorem parametersOf_parts : parametersOf (early.map partText ++ [partText last ++ ending]) =
    some (heardParameters ending (early ++ [last])) := by
  obtain ⟨earlySpelled, lastSpelled⟩ := List.forall_mem_append.mp spelled
  have remains : partText last ++ ending ≠ [] :=
    List.append_ne_nil_of_left_ne_nil (partText_ne_nil (List.forall_mem_singleton.mp lastSpelled)) _
  have whole : (early.map partText).flatMap (fun part => (parameterOf part).toList) = early := by
    rw [List.flatMap_map]
    refine Eq.trans (List.flatMap_congr fun parameter member => ?_) (List.flatMap_singleton' early)
    rw [parameterOf_partText (earlySpelled parameter member), Option.toList_some]
  rw [parametersOf_snoc, popBack, if_neg remains, Option.map_some, whole, heardParameters, List.getLast?_concat]
  simp only [List.dropLast_concat]

end Parts

/-- The parameters of a codec. -/
theorem tells_fmtp (payloadType : UInt32) {parameters : List (Text × Text)} (some : parameters ≠ [])
    (few : parameters.length ≤ 39) (spelled : ∀ parameter ∈ parameters, Spelled parameter)
    (clean : Clean letters '=' (parameters.flatMap fun parameter => partText parameter ++ ";".toList))
    (ends : Ending ending) :
    Tells unset mtype (fmtpText payloadType parameters ++ ending)
      ((heardParameters ending parameters).map (.parameter payloadType)) := by
  obtain ⟨early, last, rfl⟩ := List.eq_nil_or_concat parameters |>.resolve_left some
  rw [List.concat_eq_append] at few spelled clean ⊢
  have pieces := @splitOneOf_fmtpText ending early last spelled payloadType few ends
  have read := @parametersOf_parts ending early last spelled
  have unbroken : '\n' ∉ ((early ++ [last]).flatMap fun parameter => partText parameter ++ ";".toList).dropLast := by
    intro member
    obtain ⟨parameter, listed, here⟩ := List.mem_flatMap.mp (List.mem_of_mem_dropLast member)
    exact ((without_partText (spelled parameter listed)).mono (by decide : "\n".toList ⊆ _)).append (by decide) '\n' here
      (by decide)
  obtain ⟨cut, same, some⟩ : ∃ cut, early.map partText ++ [partText last ++ ending] = cut ∧ 0 < cut.length :=
    ⟨_, rfl, by simp⟩
  rw [same] at pieces read
  generalize heardParameters ending (early ++ [last]) = heard at read ⊢
  have shorter := clean.of_infix (List.dropLast_prefix _).isInfix
  unfold fmtpText at pieces ⊢
  generalize ((early ++ [last]).flatMap fun parameter => partText parameter ++ ";".toList).dropLast =
    parts at unbroken shorter pieces ⊢
  have line : "a=fmtp:".toList ++ toText payloadType.toInt32.toInt ++ " ".toList ++ parts ++ ending =
      "a=fmtp:".toList ++ (toText payloadType.toInt32.toInt ++ (' ' :: (parts ++ ending))) := by
    simp only [List.append_assoc]
    rfl
  have settles : Settles "a=fmtp:".toList (Option.some .fmtp) := (Tag.begins .fmtp).settles
  have number : ∀ {forbidden : Text}, forbidden = marks → Without forbidden (toText payloadType.toInt32.toInt) := by
    rintro _ rfl
    exact without_toText _ (by decide)
  rw [line] at pieces ⊢
  have tagged : Tagged ("a=fmtp:".toList ++ (toText payloadType.toInt32.toInt ++ (' ' :: (parts ++ ending))))
    (Option.some .fmtp) := by
    refine find_tagged settles rfl ?_
    rw [← List.append_assoc]
    refine Clean.append (clean_of_notMem ?_) ((shorter.append_of_notMem ?_).cons (by decide)) (by simp)
    · exact ((by decide : Without marks ("a=fmtp:".toList.drop 2)).append (number rfl)).notMem (by decide)
    · exact ends.unmarked.notMem (by decide)
  have broken : '\n' ∉ "a=fmtp:".toList ++ (toText payloadType.toInt32.toInt ++ (' ' :: (parts ++ ending))) := by
    simp only [List.mem_append, List.mem_cons, not_or]
    exact ⟨by decide, (number rfl).notMem (by decide), by decide, unbroken,
      ends.unmarked.notMem (by decide)⟩
  have found :
      Text.find ("a=fmtp:".toList ++ (toText payloadType.toInt32.toInt ++ (' ' :: (parts ++ ending)))) fmtp = true :=
    tagged .fmtp
  have other :
      Text.find ("a=fmtp:".toList ++ (toText payloadType.toInt32.toInt ++ (' ' :: (parts ++ ending)))) bas = false :=
    tagged .bas
  have enough : ¬ ("a=fmtp".toList :: toText payloadType.toInt32.toInt :: cut).length < 3 := by
    rw [List.length_cons, List.length_cons]
    omega
  refine tagged.tells broken ⟨nofun, nofun⟩ (fun _ => ?_) ?_
  · rw [taggedUpdates, fmtpUpdates, if_pos found, pieces]
    simp only [if_neg enough, List.getElem?_cons_succ, List.getElem?_cons_zero, List.drop_succ_cons, List.drop_zero, read,
      Option.bind_eq_bind, Option.bind_some, toUnsigned_payloadType, bandwidthUpdates, other, Bool.false_eq_true, if_false,
      List.append_nil]
  · exact List.filter_eq_self.mpr (List.forall_mem_map.mpr fun parameter _ => decide_eq_true nofun)

/-- A candidate that can be written in a line of its own. -/
structure Legible (candidate : CandidateInfo) : Prop where
  printable : Printable candidate
  colons : WithoutColons candidate
  foundation : Without marks candidate.foundation
  hostAddress : Without marks candidate.hostAddress
  rAddress : Without marks candidate.rAddress

/-- The text of a candidate behind its beginning. -/
theorem stringifyCandidate_body {candidate : CandidateInfo} (legible : Legible candidate) :
    ∃ body, Without marks body ∧ stringifyCandidate candidate = "a=candidate:".toList ++ body := by
  have number : ∀ number, Without marks (toText number) := fun number => without_toText number (by decide)
  have protocol : Without marks candidate.netProtocol := by
    rcases legible.printable.udp with upper | lower
    · rw [upper]
      decide
    · rw [lower]
      decide
  have type : Without marks (hostTypeName candidate.hostType) := by cases candidate.hostType <;> decide
  have fields : ∀ segment ∈ (segments candidate).tail, Without marks segment.1 ∧ Without marks [segment.2] := by
    unfold segments
    rw [List.cons_append, List.cons_append, List.tail_cons]
    refine List.forall_mem_append.mpr ⟨List.forall_mem_append.mpr ⟨?_, ?_⟩, ?_⟩
    · simp only [List.forall_mem_cons]
      exact ⟨⟨legible.foundation, by decide⟩, ⟨number _, by decide⟩, ⟨protocol, by decide⟩, ⟨number _, by decide⟩,
        ⟨legible.hostAddress, by decide⟩, ⟨number _, by decide⟩, ⟨by decide, by decide⟩, ⟨type, by decide⟩,
        fun _ member => absurd member List.not_mem_nil⟩
    · split_ifs
      · simp only [List.forall_mem_cons]
        exact ⟨⟨by decide, by decide⟩, ⟨legible.rAddress, by decide⟩, ⟨by decide, by decide⟩, ⟨number _, by decide⟩,
          fun _ member => absurd member List.not_mem_nil⟩
      · exact fun _ member => absurd member List.not_mem_nil
    · exact List.forall_mem_singleton.mpr ⟨by decide, by decide⟩
  refine ⟨((segments candidate).tail.flatMap fun segment => segment.1 ++ [segment.2]) ++ "0".toList, ?_, ?_⟩
  · refine Without.append (fun character member => ?_) (by decide)
    obtain ⟨segment, listed, inside⟩ := List.mem_flatMap.mp member
    exact (fields segment listed).1.append (fields segment listed).2 character inside
  · rw [stringifyCandidate_eq, ← List.append_assoc]
    rfl

/-- What the line of a candidate is cut into. -/
theorem splitOneOf_stringifyCandidate {candidate : CandidateInfo} (legible : Legible candidate) (ends : Ending ending) :
    splitOneOf (stringifyCandidate candidate ++ ending) " :".toList 0 =
      (segments candidate).map Prod.fst ++ ["0".toList ++ ending] := by
  have whole := piecesOf_stringifyCandidate legible.printable legible.colons
  refine splitOneOf_segments (segments candidate) ?_ ?_ (fun segment member character here delimits => ?_) (Or.inl rfl)
    (List.cons_ne_nil _ _) (Or.inl ((by decide : Without " :".toList "0".toList).append (ends.without (by decide))))
  · rw [stringifyCandidate_eq, List.append_assoc]
  · unfold segments
    split_ifs <;> simp
  · have piece : segment.1 ∈ piecesOf (stringifyCandidate candidate) := by
      rw [whole]
      exact List.mem_append_left _ (List.mem_map_of_mem member)
    rw [piecesOf, splitOneOf, if_pos rfl] at piece
    have free := Cut.free_of_mem_split piece character here
    exact absurd delimits (of_decide_eq_false free)

/-- A candidate. -/
theorem tells_candidate {candidate : CandidateInfo} (legible : Legible candidate) (ends : Ending ending) :
    Tells unset mtype (stringifyCandidate candidate ++ ending)
      [.candidate (readBack unset mtype (stringifyCandidate candidate ++ ending) candidate)] := by
  have begins : Begins "a=candidate:".toList (some .cand) := Tag.begins .cand
  obtain ⟨body, absent, line⟩ := stringifyCandidate_body legible
  have bodyAbsent : Without marks (body ++ ending) := absent.append ends.unmarked
  have read := @candidateOf_segments unset mtype (stringifyCandidate candidate ++ ending) candidate legible.printable.udp
    ("0".toList ++ ending)
  rw [← splitOneOf_stringifyCandidate legible ends] at read
  rw [line, List.append_assoc] at read ⊢
  refine begins.tells bodyAbsent ⟨nofun, nofun⟩ (fun _ => ?_) rfl
  rw [taggedUpdates, candidateUpdates, if_pos (show Text.find _ cand = true from begins.found bodyAbsent), read]
  rfl

/-! ### Bundles -/

/-- Texts, each led by a blank, are texts with blanks between them. -/
theorem flatMap_led (first : Text) (others : List Text) :
    first ++ others.flatMap (fun other => " ".toList ++ other) =
      ((first :: others).dropLast.flatMap fun other => other ++ [' ']) ++ (first :: others).getLast
        (List.cons_ne_nil _ _) := by
  induction others generalizing first with
  | nil => simp
  | cons other others ih =>
      rw [List.flatMap_cons, List.append_assoc, ih other, List.dropLast_cons_cons, List.flatMap_cons,
        List.getLast_cons_cons,
        ← List.append_assoc, ← List.append_assoc]
      rfl

/-- What the line of a bundle is cut into. -/
theorem splitOneOf_group {ids : List Text} (few : ids.length ≤ 8) (present : ∀ id ∈ ids, id ≠ [])
    (free : ∀ id ∈ ids, Without " :=\r\n".toList id) (ends : Ending ending) :
    splitOneOf ("a=group:".toList ++ (("BUNDLE".toList ++ ids.flatMap fun id => " ".toList ++ id) ++ ending))
      ":  \r\n".toList 10 = "a=group".toList :: "BUNDLE".toList :: ids := by
  have pieces : ("BUNDLE".toList :: ids).dropLast ++ [("BUNDLE".toList :: ids).getLast (List.cons_ne_nil _ _)] =
      "BUNDLE".toList :: ids := List.dropLast_append_getLast _
  have allFree : ∀ piece ∈ "BUNDLE".toList :: ids, Without ":  \r\n".toList piece :=
    List.forall_mem_cons.mpr ⟨by decide, fun id member => (free id member).mono (by decide)⟩
  have allPresent : ∀ piece ∈ "BUNDLE".toList :: ids, piece ≠ [] := List.forall_mem_cons.mpr ⟨by decide, present⟩
  have few' : ("BUNDLE".toList :: ids).dropLast.length ≤ 8 := by
    rw [List.length_dropLast, List.length_cons]
    exact few
  rw [flatMap_led]
  generalize ("BUNDLE".toList :: ids).dropLast = early at pieces few' ⊢
  generalize ("BUNDLE".toList :: ids).getLast (List.cons_ne_nil _ _) = last at pieces ⊢
  rw [← pieces] at allFree allPresent ⊢
  have segmentsFree : ∀ segment ∈ ("a=group".toList, ':') :: early.map fun piece => (piece, ' '),
      Without ":  \r\n".toList segment.1 := by
    refine List.forall_mem_cons.mpr ⟨by decide, List.forall_mem_map.mpr fun piece member => ?_⟩
    exact allFree piece (List.mem_append_left _ member)
  have delimits : ∀ segment ∈ ("a=group".toList, ':') :: early.map fun piece => (piece, ' '),
      segment.2 ∈ ":  \r\n".toList := by
    exact List.forall_mem_cons.mpr ⟨by decide, List.forall_mem_map.mpr fun piece _ => by simp⟩
  have lastFree := allFree last (List.mem_append_right _ List.mem_cons_self)
  rcases ends with rfl | rfl
  · rw [@splitOneOf_segments _ ":  \r\n".toList 10 (("a=group".toList, ':') :: early.map fun piece => (piece, ' ')) last ?_
      delimits segmentsFree (Or.inr ?_) (allPresent last (List.mem_append_right _ List.mem_cons_self)) (Or.inl lastFree)]
    · simp [List.map_map, Function.comp_def]
    · simp [List.flatMap_map]
    · rw [List.length_cons, List.length_map]
      omega
  · rw [@splitOneOf_terminated _ ":  \r\n".toList 10
      ((("a=group".toList, ':') :: early.map fun piece => (piece, ' ')) ++ [(last, '\r')]) ?_
      (List.forall_mem_append.mpr ⟨delimits, List.forall_mem_singleton.mpr (by simp)⟩)
      (List.forall_mem_append.mpr ⟨segmentsFree, List.forall_mem_singleton.mpr lastFree⟩) (Or.inr ?_)]
    · simp [List.map_map, Function.comp_def]
    · simp [List.flatMap_map]
    · rw [List.length_append, List.length_singleton, List.length_cons, List.length_map]
      omega

/-- A bundle. -/
theorem tells_group {ids : List Text} (few : ids.length ≤ 8) (present : ∀ id ∈ ids, id ≠ [])
    (free : ∀ id ∈ ids, Without " :=\r\n".toList id) (ends : Ending ending) :
    Tells unset mtype ("a=group:BUNDLE".toList ++ (ids.flatMap fun id => " ".toList ++ id) ++ ending)
      (.bundle :: ids.map .tag) := by
  have begins : Begins "a=group:".toList (some .group) := Tag.begins .group
  have absent : Without marks (("BUNDLE".toList ++ ids.flatMap fun id => " ".toList ++ id) ++ ending) := by
    refine ((by decide : Without marks "BUNDLE".toList).append fun character member => ?_).append ends.unmarked
    obtain ⟨id, listed, inside⟩ := List.mem_flatMap.mp member
    exact (by decide : Without marks " ".toList).append ((free id listed).mono (by decide)) character inside
  have line : "a=group:BUNDLE".toList ++ (ids.flatMap fun id => " ".toList ++ id) ++ ending =
      "a=group:".toList ++ (("BUNDLE".toList ++ ids.flatMap fun id => " ".toList ++ id) ++ ending) := by
    rw [← List.append_assoc, ← List.append_assoc]
    rfl
  rw [line]
  refine begins.tells absent ⟨nofun, nofun⟩ (fun _ => ?_) ?_
  · rw [taggedUpdates, groupUpdates, if_pos (show Text.find _ group = true from begins.found absent),
      splitOneOf_group few present free ends]
    rfl
  · refine List.filter_eq_self.mpr (List.forall_mem_cons.mpr ⟨by decide, List.forall_mem_map.mpr fun id member => ?_⟩)
    exact decide_eq_true nofun

/-! ### Lines that open a section -/

/-- In every section a line says one update, and opens the section of a medium. -/
structure Opens (unset : Uninitialised) (line : Text) (mediaType : MediaType) (update : ℤ → Update) : Prop where
  unbroken : '\n' ∉ line
  media : ∀ mtype, mediaAfter line mtype = mediaType
  mlines : mlinesOf line = 1
  said : ∀ mtype mlineNum, (updatesOf unset line mtype mlineNum).map spoken = some [update (mlineNum + 1)]

theorem opens_audio {body : Text} (absent : Without marks body) (ends : Ending ending) :
    Opens unset ("m=audio".toList ++ body ++ ending) .audio .audioMLine := by
  rw [List.append_assoc]
  have begins : Begins "m=audio".toList (some .audio) := Tag.begins .audio
  have bodyAbsent : Without marks (body ++ ending) := absent.append ends.unmarked
  have tagged := begins.tagged bodyAbsent
  have audio : Text.find ("m=audio".toList ++ (body ++ ending)) SdpInfo.audio = true := tagged .audio
  have video : Text.find ("m=audio".toList ++ (body ++ ending)) SdpInfo.video = false := tagged .video
  refine ⟨begins.unbroken_append bodyAbsent, fun mtype => ?_, ?_, fun mtype mlineNum => ?_⟩
  · rw [mediaAfter, if_pos audio]
  · rw [mlinesOf, audio, video]
    rfl
  · rw [says_of_tagged unset mtype mlineNum tagged]
    rfl

theorem opens_video {body : Text} (absent : Without marks body) (ends : Ending ending) :
    Opens unset ("m=video".toList ++ body ++ ending) .video .videoMLine := by
  rw [List.append_assoc]
  have begins : Begins "m=video".toList (some .video) := Tag.begins .video
  have bodyAbsent : Without marks (body ++ ending) := absent.append ends.unmarked
  have tagged := begins.tagged bodyAbsent
  have audio : Text.find ("m=video".toList ++ (body ++ ending)) SdpInfo.audio = false := tagged .audio
  have video : Text.find ("m=video".toList ++ (body ++ ending)) SdpInfo.video = true := tagged .video
  refine ⟨begins.unbroken_append bodyAbsent, fun mtype => ?_, ?_, fun mtype mlineNum => ?_⟩
  · rw [mediaAfter, audio, video]
    rfl
  · rw [mlinesOf, audio, video]
    rfl
  · rw [says_of_tagged unset mtype mlineNum tagged]
    rfl

end Lines

end SdpInfo

end Erizo
