/-
**A description as a list of updates.**

What a line does to an `SdpInfo` depends on the line and on the section it is in, not on the `SdpInfo`:
`updatesOf` reads a line as a list of updates, `describe` the lines of a text. `processSdp` applies the
updates of the text one after the other and then negotiates the codecs (`processSdp_eq`). An update is
applied without fail, but for the loop over the bundle tags that a `mid` line runs.
-/

import Erizo.Model.SdpInfo

namespace Erizo

namespace SdpInfo

open Library StringUtil Reading

/-- What a line does to a description. -/
inductive Update
  | rtcpMux
  | direction (mediaType : MediaType) (direction : StreamDirection)
  | profile
  | fingerprint (fingerprint : Text)
  | dtlsRole (role : DtlsRole)
  | bundle
  | tag (id : Text)
  | videoMLine (mline : ℤ)
  | audioMLine (mline : ℤ)
  | candidate (candidate : CandidateInfo)
  | crypto (info : CryptoInfo)
  | username (mediaType : MediaType) (username : Text)
  | password (mediaType : MediaType) (password : Text)
  | mid (id : Text) (mediaType : MediaType)
  | rid (rid : Rid)
  | rtpmap (pt : UInt32) (name : Text) (clock : UInt32) (mediaType : MediaType)
  | extmap (extension : ExtMap)
  | feedback (pt : UInt32) (feedback : Text)
  | parameter (pt : UInt32) (parameter : Text × Text)
  | bandwidth (bandwidth : UInt32)
  deriving DecidableEq

variable (unset : Uninitialised)

/-- The codec that was read for a payload type, or a new one. -/
def element (sdp : SdpInfo) (pt : UInt32) : RtpMap := (sdp.payloadParsedMap[pt]?).getD (newMap unset pt)

/-- What was read for a payload type. -/
def setElement (sdp : SdpInfo) (pt : UInt32) (element : RtpMap) : SdpInfo :=
  { sdp with payloadParsedMap := sdp.payloadParsedMap.insert pt element }

/-- An update, applied. -/
def apply (sdp : SdpInfo) : Update → Option SdpInfo
  | .rtcpMux => some { sdp with isRtcpMux := true }
  | .direction mediaType direction =>
      some (if mediaType = .audio then { sdp with audioDirection := direction }
        else { sdp with videoDirection := direction })
  | .profile => some { sdp with profile := .savpf }
  | .fingerprint fingerprint => some { sdp with fingerprint := fingerprint, isFingerprint := true }
  | .dtlsRole role => some { sdp with dtlsRole := role }
  | .bundle => some { sdp with isBundle := true }
  | .tag id => some { sdp with bundleTags := sdp.bundleTags ++ [⟨id, .other⟩] }
  | .videoMLine mline => some { sdp with videoSdpMLine := mline, hasVideo := true }
  | .audioMLine mline => some { sdp with audioSdpMLine := mline, hasAudio := true }
  | .candidate candidate => some { sdp with candidateVector := sdp.candidateVector ++ [candidate] }
  | .crypto info => some { sdp with cryptoVector := sdp.cryptoVector ++ [info] }
  | .username mediaType username => some (setUsername sdp mediaType username)
  | .password mediaType password => some (setPassword sdp mediaType password)
  | .mid id mediaType =>
      if sdp.isBundle then
        (setMediaType id mediaType sdp.bundleTags).map fun bundleTags => { sdp with bundleTags := bundleTags }
      else some sdp
  | .rid rid => some { sdp with rids := sdp.rids ++ [rid] }
  | .rtpmap pt name clock mediaType =>
      some (sdp.setElement pt { sdp.element unset pt with
        payloadType := pt, encodingName := name, clockRate := clock, mediaType := mediaType })
  | .extmap extension => some { sdp with extMapVector := sdp.extMapVector ++ [extension] }
  | .feedback pt feedback =>
      some (sdp.setElement pt { sdp.element unset pt with
        feedbackTypes := (sdp.element unset pt).feedbackTypes ++ [feedback] })
  | .parameter pt parameter => some (setParameter unset pt sdp parameter)
  | .bandwidth bandwidth => some { sdp with videoBandwidth := bandwidth }

/-- Updates, applied one after the other. -/
def applyAll (sdp : SdpInfo) (updates : List Update) : Option SdpInfo := updates.foldlM (apply unset) sdp

@[simp] theorem applyAll_nil (sdp : SdpInfo) : applyAll unset sdp [] = some sdp := rfl

@[simp] theorem applyAll_cons (sdp : SdpInfo) (update : Update) (updates : List Update) :
    applyAll unset sdp (update :: updates) = (apply unset sdp update).bind fun sdp => applyAll unset sdp updates := rfl

theorem applyAll_append (sdp : SdpInfo) (first second : List Update) :
    applyAll unset sdp (first ++ second) = (applyAll unset sdp first).bind fun sdp => applyAll unset sdp second :=
  List.foldlM_append

/-! ### What a line says -/

section Line

variable (line : Text) (mtype : MediaType)

def rtcpMuxUpdates : List Update := if line.find rtcpmux then [.rtcpMux] else []

def directionUpdates : List Update :=
  if line.find recvonly then [.direction mtype .recvonly]
  else if line.find sendonly then [.direction mtype .sendonly]
  else if line.find sendrecv then [.direction mtype .sendrecv]
  else []

def profileUpdates : List Update := if line.find savpf then [.profile] else []

def fingerprintUpdates : Option (List Update) :=
  if line.find fp then do
    let parts := splitOneOf (← (splitOneOf line ":".toList 1)[1]?) " ".toList 0
    some [.fingerprint (← parts[1]?)]
  else some []

def setupUpdates : Option (List Update) :=
  if line.find setup then do
    some [.dtlsRole (dtlsRoleOf (← (splitOneOf line ":".toList 1)[1]?))]
  else some []

def groupUpdates : Option (List Update) :=
  if line.find group then do
    let parts := splitOneOf line ":  \r\n".toList 10
    let kind ← parts[1]?
    some ((if kind = "BUNDLE".toList then [.bundle] else []) ++ (parts.drop 2).map .tag)
  else some []

/-- The section a line is in, once its `m=` part is read. -/
def mediaAfter : MediaType := if line.find audio then .audio else if line.find video then .video else mtype

/-- How many `m=` parts a line has. -/
def mlinesOf : ℤ := (if line.find video then 1 else 0) + (if line.find audio then 1 else 0)

def mlineUpdates (mlineNum : ℤ) : List Update :=
  (if line.find video then [.videoMLine (mlineNum + 1)] else []) ++
    (if line.find audio then [.audioMLine (mlineNum + mlinesOf line)] else [])

def candidateUpdates : Option (List Update) :=
  if line.find cand then do
    some ((← candidateOf unset (splitOneOf line " :".toList 0) mtype line).map Update.candidate).toList
  else some []

def cryptoUpdates : Option (List Update) :=
  if line.find crypto then do
    let cryptopiece := splitOneOf line " :".toList 0
    some [.crypto ⟨0, ← cryptopiece[2]?, ← cryptopiece[4]?, mtype⟩]
  else some []

def credentialUpdates (pattern : Text) (update : MediaType → Text → Update) : Option (List Update) :=
  if line.find pattern then do
    some [update mtype (← (splitOneOf (← (splitOneOf line ":".toList 1)[1]?) "\r".toList 1)[0]?)]
  else some []

def midUpdates : List Update :=
  if line.find mid then ((splitOneOf line ": \r\n".toList 4)[1]?.map (Update.mid · mtype)).toList else []

def ridUpdates : Option (List Update) :=
  if line.find rid then
    if mtype = .video then do
      some ((ridOf (← (splitOneOf line ":".toList 2)[1]?)).map Update.rid).toList
    else some []
  else some []

def rtpmapUpdates : Option (List Update) :=
  if line.find rtpmap then do
    let parts := splitOneOf line " :/\n".toList 4
    some [.rtpmap (toUnsigned (← parts[1]?)) (← parts[2]?) (toUnsigned (← parts[3]?)) mtype]
  else some []

def extMapUpdates : Option (List Update) :=
  if line.find extmap then
    let parts := splitOneOf line " :=".toList 3
    if 3 ≤ parts.length then do
      some [.extmap ⟨toUnsigned (← parts[2]?), (← parts[3]?).dropLast, mtype⟩]
    else some []
  else some []

def feedbackUpdates : Option (List Update) :=
  if line.find rtcpfb then do
    let parts := splitOneOf line " :".toList 2
    some [.feedback (toUnsigned (← parts[1]?)) (← popBack (← parts[2]?))]
  else some []

/-- The parameters of the parts of an `fmtp` line. -/
def parametersOf : List Text → Option (List (Text × Text))
  | [] => some []
  | [last] => do
      some (parameterOf (← popBack last)).toList
  | part :: parts => do
      some ((parameterOf part).toList ++ (← parametersOf parts))

def bandwidthUpdates : List Update :=
  if line.find bas then
    if mtype = .video then ((splitOneOf line ":".toList 2)[1]?.map fun value => Update.bandwidth (toUnsigned value)).toList
    else []
  else []

def fmtpUpdates : Option (List Update) :=
  if line.find fmtp then
    let parts := splitOneOf line " :;".toList 40
    if parts.length < 3 then some []
    else do
      let pt := toUnsigned (← parts[1]?)
      some ((← parametersOf (parts.drop 2)).map (Update.parameter pt) ++ bandwidthUpdates line mtype)
  else some (bandwidthUpdates line mtype)

/-- What a line says before its `m=` part. -/
def sessionUpdates : Option (List Update) := do
  some (rtcpMuxUpdates line ++ directionUpdates line mtype ++ profileUpdates line ++ (← fingerprintUpdates line) ++
    (← setupUpdates line) ++ (← groupUpdates line))

/-- What a line says after its `m=` part. -/
def attributeUpdates : Option (List Update) := do
  some ((← candidateUpdates unset line mtype) ++ (← cryptoUpdates line mtype) ++
    (← credentialUpdates line mtype iceUser .username) ++ (← credentialUpdates line mtype icePass .password) ++
    midUpdates line mtype ++ (← ridUpdates line mtype) ++ (← rtpmapUpdates line mtype) ++
    (← extMapUpdates line mtype) ++ (← feedbackUpdates line) ++ (← fmtpUpdates line mtype))

/-- **What a line says**, in a section and after so many `m=` parts. -/
def updatesOf (mlineNum : ℤ) : Option (List Update) := do
  some ((← sessionUpdates line mtype) ++ mlineUpdates line mlineNum ++
    (← attributeUpdates unset line (mediaAfter line mtype)))

end Line

/-! ### The lines, as updates -/

/-- A reading to which updates are applied. -/
def Reading.after (reading : Reading) (updates : Option (List Update)) : Option Reading :=
  updates.bind fun updates => (applyAll unset reading.sdp updates).map fun sdp => { reading with sdp := sdp }

/-- In a section of a medium a step applies updates. -/
def Says (mtype : MediaType) (step : Reading → Option Reading) (updates : Option (List Update)) : Prop :=
  ∀ reading : Reading, reading.mtype = mtype → step reading = reading.after unset updates

/-- A step after another applies its updates after the other's. -/
theorem Says.bind {mtype : MediaType} {first second : Reading → Option Reading} {updates more : Option (List Update)}
    (one : Says unset mtype first updates) (two : Says unset mtype second more) :
    Says unset mtype (fun reading => (first reading).bind second) (do some ((← updates) ++ (← more))) := by
  intro reading media
  refine (congrArg (Option.bind · second) (one reading media)).trans ?_
  cases updates with
  | none => rfl
  | some updates =>
      simp only [Reading.after, Option.bind_eq_bind, Option.bind_some]
      cases applied : applyAll unset reading.sdp updates with
      | none => cases more <;> simp [applyAll_append, applied]
      | some sdp =>
          rw [Option.map_some, Option.bind_some, two ⟨sdp, _, _⟩ media]
          cases more <;> simp [Reading.after, applyAll_append, applied]

section Steps

variable (line : Text) (reading : Reading)

theorem onRtcpMux_eq : some (onRtcpMux line reading) = reading.after unset (some (rtcpMuxUpdates line)) := by
  unfold onRtcpMux rtcpMuxUpdates
  split_ifs <;> rfl

theorem onDirection_eq :
    some (onDirection line reading) = reading.after unset (some (directionUpdates line reading.mtype)) := by
  have set : ∀ direction, some (reading.setDirection direction) =
      reading.after unset (some [.direction reading.mtype direction]) := by
    intro direction
    unfold setDirection
    split_ifs with audio <;> simp [Reading.after, apply, audio]
  unfold onDirection directionUpdates
  split_ifs
  · exact set .recvonly
  · exact set .sendonly
  · exact set .sendrecv
  · rfl

theorem onProfile_eq : some (onProfile line reading) = reading.after unset (some (profileUpdates line)) := by
  unfold onProfile profileUpdates
  split_ifs <;> rfl

theorem onFingerprint_eq : onFingerprint line reading = reading.after unset (fingerprintUpdates line) := by
  unfold onFingerprint fingerprintUpdates
  split_ifs
  · simp only [Option.bind_eq_bind, Reading.after, Option.bind_assoc]
    rfl
  · rfl

theorem onSetup_eq : onSetup line reading = reading.after unset (setupUpdates line) := by
  unfold onSetup setupUpdates
  split_ifs
  · simp only [Option.bind_eq_bind, Reading.after, Option.bind_assoc]
    rfl
  · rfl

/-- Tags are added one after the other. -/
theorem applyAll_tags (sdp : SdpInfo) (ids : List Text) :
    applyAll unset sdp (ids.map .tag) =
      some { sdp with bundleTags := sdp.bundleTags ++ ids.map fun id => ⟨id, .other⟩ } := by
  induction ids generalizing sdp with
  | nil => simp
  | cons id ids ih =>
      rw [List.map_cons, applyAll_cons, apply, Option.bind_some, ih, List.map_cons, List.append_assoc,
        List.singleton_append]

theorem onGroup_eq : onGroup line reading = reading.after unset (groupUpdates line) := by
  unfold onGroup groupUpdates
  split_ifs
  · simp only [Option.bind_eq_bind, Reading.after, Option.bind_assoc, Option.bind_some]
    refine Option.bind_congr fun kind _ => ?_
    generalize (splitOneOf line ":  \r\n".toList 10).drop 2 = ids
    rw [applyAll_append]
    split_ifs <;> simp [apply, applyAll_tags]
  · rfl

theorem onCandidate_eq :
    onCandidate unset line reading = reading.after unset (candidateUpdates unset line reading.mtype) := by
  unfold onCandidate candidateUpdates processCandidate
  split_ifs
  · cases candidateOf unset (splitOneOf line " :".toList 0) reading.mtype line with
    | none => rfl
    | some candidate => cases candidate <;> rfl
  · rfl

theorem onCrypto_eq : onCrypto line reading = reading.after unset (cryptoUpdates line reading.mtype) := by
  unfold onCrypto cryptoUpdates
  split_ifs
  · simp only [Option.bind_eq_bind, Reading.after, Option.bind_assoc]
    rfl
  · rfl

theorem onCredential_eq (pattern : Text) {set : SdpInfo → MediaType → Text → SdpInfo} {update : MediaType → Text → Update}
    (applied : ∀ sdp value, apply unset sdp (update reading.mtype value) = some (set sdp reading.mtype value)) :
    onCredential line reading pattern set =
      reading.after unset (credentialUpdates line reading.mtype pattern update) := by
  unfold onCredential credentialUpdates
  split_ifs
  · simp [Reading.after, Option.bind_assoc, applied]
  · rfl

theorem onMid_eq : onMid line reading = reading.after unset (some (midUpdates line reading.mtype)) := by
  unfold onMid midUpdates
  by_cases here : line.find mid = true
  · rw [if_pos here, if_pos here]
    cases (splitOneOf line ": \r\n".toList 4)[1]? with
    | none => rfl
    | some thisId =>
        simp only [Option.map_some, Option.toList_some, Reading.after, Option.bind_some, applyAll_cons, apply]
        split_ifs
        · cases setMediaType thisId reading.mtype reading.sdp.bundleTags <;> simp
        · simp
  · rw [if_neg here, if_neg here]
    rfl

theorem onRid_eq : onRid line reading = reading.after unset (ridUpdates line reading.mtype) := by
  unfold onRid ridUpdates
  split_ifs
  · simp only [Option.bind_eq_bind, Reading.after, Option.bind_assoc, Option.bind_some]
    refine Option.bind_congr fun raw _ => ?_
    cases ridOf raw <;> simp [apply]
  · rfl
  · rfl

theorem onRtpmap_eq : onRtpmap unset line reading = reading.after unset (rtpmapUpdates line reading.mtype) := by
  unfold onRtpmap rtpmapUpdates
  split_ifs
  · simp only [Option.bind_eq_bind, Reading.after, Option.bind_assoc]
    rfl
  · rfl

theorem onExtMap_eq : onExtMap line reading = reading.after unset (extMapUpdates line reading.mtype) := by
  unfold onExtMap extMapUpdates
  simp only
  split_ifs
  · simp only [Option.bind_eq_bind, Reading.after, Option.bind_assoc]
    rfl
  · rfl
  · rfl

theorem onFeedback_eq : onFeedback unset line reading = reading.after unset (feedbackUpdates line) := by
  unfold onFeedback feedbackUpdates
  split_ifs
  · simp only [Option.bind_eq_bind, Reading.after, Option.bind_assoc]
    rfl
  · rfl

/-- The parameters of a line are set one after the other. -/
theorem setParameters_eq (pt : UInt32) (sdp : SdpInfo) (parts : List Text) :
    setParameters unset pt sdp parts =
      (parametersOf parts).bind fun parameters => applyAll unset sdp (parameters.map (Update.parameter pt)) := by
  have one : ∀ (part : Text) (sdp : SdpInfo), applyAll unset sdp ((parameterOf part).toList.map (Update.parameter pt)) =
      some (((parameterOf part).map (setParameter unset pt sdp)).getD sdp) := by
    intro part sdp
    cases parameterOf part <;> simp [apply]
  induction parts using parametersOf.induct generalizing sdp with
  | case1 => rfl
  | case2 last => simp [setParameters, parametersOf, one, Option.bind_assoc]
  | case3 part parts more ih =>
      rw [setParameters, parametersOf, ih]
      · simp [applyAll_append, one, Option.bind_assoc]
      · exact more
      · exact more

theorem onBandwidth_eq :
    some (onBandwidth line reading) = reading.after unset (some (bandwidthUpdates line reading.mtype)) := by
  unfold onBandwidth bandwidthUpdates
  split_ifs
  · cases (splitOneOf line ":".toList 2)[1]? <;> rfl
  · rfl
  · rfl

theorem onFmtp_eq : onFmtp unset line reading = reading.after unset (fmtpUpdates line reading.mtype) := by
  unfold onFmtp fmtpUpdates
  simp only
  split_ifs
  · rfl
  · simp only [Option.bind_eq_bind, setParameters_eq, Reading.after, Option.bind_assoc, Option.bind_some]
    refine Option.bind_congr fun pt _ => Option.bind_congr fun parameters _ => ?_
    rw [applyAll_append, Option.map_bind]
    refine Option.bind_congr fun sdp _ => ?_
    exact onBandwidth_eq unset line { reading with sdp := sdp }
  · exact onBandwidth_eq unset line reading

/-! ### A line, and a text -/

/-- The `m=` parts of a line. -/
theorem onMLine_eq : onAudio line (onVideo line reading) = { reading with
    sdp := (onAudio line (onVideo line reading)).sdp
    mlineNum := reading.mlineNum + mlinesOf line
    mtype := mediaAfter line reading.mtype } ∧
      applyAll unset reading.sdp (mlineUpdates line reading.mlineNum) = some (onAudio line (onVideo line reading)).sdp := by
  unfold onAudio onVideo mlinesOf mediaAfter mlineUpdates
  split_ifs <;> simp [apply, mlinesOf, add_assoc, one_add_one_eq_two, *]

end Steps

/-- The steps of a line before its `m=` part. -/
def sessionSteps (line : Text) (reading : Reading) : Option Reading := do
  let reading ← onFingerprint line (onProfile line (onDirection line (onRtcpMux line reading)))
  let reading ← onSetup line reading
  onGroup line reading

/-- The steps of a line after its `m=` part. -/
def attributeSteps (line : Text) (reading : Reading) : Option Reading := do
  let reading ← onCandidate unset line reading
  let reading ← onCrypto line reading
  let reading ← onUser line reading
  let reading ← onPass line reading
  let reading ← onMid line reading
  let reading ← onRid line reading
  let reading ← onRtpmap unset line reading
  let reading ← onExtMap line reading
  let reading ← onFeedback unset line reading
  onFmtp unset line reading

theorem processLine_steps (line : Text) (reading : Reading) : processLine unset line reading =
    (sessionSteps line reading).bind fun reading => attributeSteps unset line (onAudio line (onVideo line reading)) := by
  simp [processLine, sessionSteps, attributeSteps, Option.bind_assoc]

/-- What a line says before its `m=` part. -/
theorem session_says (line : Text) (mtype : MediaType) :
    Says unset mtype (sessionSteps line) (sessionUpdates line mtype) := by
  have flags : Says unset mtype (fun reading => some (onRtcpMux line reading)) (some (rtcpMuxUpdates line)) :=
    fun reading _ => onRtcpMux_eq unset line reading
  have direction : Says unset mtype (fun reading => some (onDirection line reading)) (some (directionUpdates line mtype)) :=
    fun reading media => media ▸ onDirection_eq unset line reading
  have profile : Says unset mtype (fun reading => some (onProfile line reading)) (some (profileUpdates line)) :=
    fun reading _ => onProfile_eq unset line reading
  have fingerprint : Says unset mtype (onFingerprint line) (fingerprintUpdates line) :=
    fun reading _ => onFingerprint_eq unset line reading
  have setup : Says unset mtype (onSetup line) (setupUpdates line) := fun reading _ => onSetup_eq unset line reading
  have group : Says unset mtype (onGroup line) (groupUpdates line) := fun reading _ => onGroup_eq unset line reading
  have all := flags.bind unset (direction.bind unset (profile.bind unset (fingerprint.bind unset (setup.bind unset group))))
  intro reading media
  simpa only [sessionSteps, sessionUpdates, Option.bind_eq_bind, Option.bind_assoc, Option.bind_some,
    List.append_assoc] using all reading media

/-- What a line says after its `m=` part. -/
theorem attributes_says (line : Text) (mtype : MediaType) :
    Says unset mtype (attributeSteps unset line) (attributeUpdates unset line mtype) := by
  have candidate : Says unset mtype (onCandidate unset line) (candidateUpdates unset line mtype) :=
    fun reading media => media ▸ onCandidate_eq unset line reading
  have crypto : Says unset mtype (onCrypto line) (cryptoUpdates line mtype) :=
    fun reading media => media ▸ onCrypto_eq unset line reading
  have user : Says unset mtype (onUser line) (credentialUpdates line mtype iceUser .username) :=
    fun reading media => media ▸ onCredential_eq unset line reading iceUser fun _ _ => rfl
  have pass : Says unset mtype (onPass line) (credentialUpdates line mtype icePass .password) :=
    fun reading media => media ▸ onCredential_eq unset line reading icePass fun _ _ => rfl
  have mid : Says unset mtype (onMid line) (some (midUpdates line mtype)) :=
    fun reading media => media ▸ onMid_eq unset line reading
  have rid : Says unset mtype (onRid line) (ridUpdates line mtype) :=
    fun reading media => media ▸ onRid_eq unset line reading
  have rtpmap : Says unset mtype (onRtpmap unset line) (rtpmapUpdates line mtype) :=
    fun reading media => media ▸ onRtpmap_eq unset line reading
  have extmap : Says unset mtype (onExtMap line) (extMapUpdates line mtype) :=
    fun reading media => media ▸ onExtMap_eq unset line reading
  have feedback : Says unset mtype (onFeedback unset line) (feedbackUpdates line) :=
    fun reading _ => onFeedback_eq unset line reading
  have fmtp : Says unset mtype (onFmtp unset line) (fmtpUpdates line mtype) :=
    fun reading media => media ▸ onFmtp_eq unset line reading
  have all := candidate.bind unset (crypto.bind unset (user.bind unset (pass.bind unset (mid.bind unset (rid.bind unset
    (rtpmap.bind unset (extmap.bind unset (feedback.bind unset fmtp))))))))
  intro reading media
  simpa only [attributeSteps, attributeUpdates, Option.bind_eq_bind, Option.bind_assoc, Option.bind_some,
    List.append_assoc] using all reading media

/-- **A line**, as updates. -/
theorem processLine_eq (line : Text) (reading : Reading) : processLine unset line reading =
    ((updatesOf unset line reading.mtype reading.mlineNum).bind (applyAll unset reading.sdp)).map fun sdp =>
      ⟨sdp, reading.mlineNum + mlinesOf line, mediaAfter line reading.mtype⟩ := by
  rw [processLine_steps, session_says unset line reading.mtype reading rfl, updatesOf]
  cases sessionUpdates line reading.mtype with
  | none => rfl
  | some updates =>
      simp only [Reading.after, Option.bind_eq_bind, Option.bind_some]
      cases applied : applyAll unset reading.sdp updates with
      | none => cases attributeUpdates unset line (mediaAfter line reading.mtype) <;> simp [applyAll_append, applied]
      | some sdp =>
          rw [Option.map_some, Option.bind_some]
          obtain ⟨moved, mlines⟩ := onMLine_eq unset line ⟨sdp, reading.mlineNum, reading.mtype⟩
          have attributes := attributes_says unset line (mediaAfter line reading.mtype)
            (onAudio line (onVideo line ⟨sdp, reading.mlineNum, reading.mtype⟩)) (by rw [moved])
          refine attributes.trans ?_
          rw [Reading.after, moved]
          cases attributeUpdates unset line (mediaAfter line reading.mtype) with
          | none => rfl
          | some more => simp [applyAll_append, applied, mlines]

/-! ### A text -/

/-- **What the lines say**, from a section and a number of `m=` parts on. -/
def describe : List Text → MediaType → ℤ → Option (List Update)
  | [], _, _ => some []
  | line :: lines, mtype, mlineNum => do
      some ((← updatesOf unset line mtype mlineNum) ++
        (← describe lines (mediaAfter line mtype) (mlineNum + mlinesOf line)))

/-- The lines, as updates. -/
theorem processLines_eq (lines : List Text) (reading : Reading) :
    (processLines unset lines reading).map Reading.sdp =
      (describe unset lines reading.mtype reading.mlineNum).bind (applyAll unset reading.sdp) := by
  induction lines generalizing reading with
  | nil => rfl
  | cons line lines ih =>
      rw [processLines, List.foldlM_cons, processLine_eq, describe]
      cases updatesOf unset line reading.mtype reading.mlineNum with
      | none => rfl
      | some updates =>
          simp only [Option.bind_eq_bind, Option.bind_some]
          cases applied : applyAll unset reading.sdp updates with
          | none => cases describe unset lines (mediaAfter line reading.mtype) (reading.mlineNum + mlinesOf line) <;>
              simp [applyAll_append, applied]
          | some sdp =>
              rw [Option.map_some, Option.bind_some]
              refine (ih ⟨sdp, _, _⟩).trans ?_
              cases describe unset lines (mediaAfter line reading.mtype) (reading.mlineNum + mlinesOf line) <;>
                simp [applyAll_append, applied]

/-- What a text says. -/
def updatesOfText (text media : Text) : Option (List Update) := describe unset (getLines text) (mediaOf media) (-1)

/-- **`processSdp`** applies the updates of the text and negotiates the codecs. -/
theorem processSdp_eq (sdp : SdpInfo) (text media : Text) : processSdp unset sdp text media =
    ((updatesOfText unset text media).bind (applyAll unset sdp)).bind postProcessInfo := by
  rw [updatesOfText, ← processLines_eq unset (getLines text) ⟨sdp, -1, mediaOf media⟩, processSdp, Option.bind_map]
  rfl

/-! ### What an update does to each part of a description -/

namespace Update

/-- The identifiers an update adds. -/
def rids : Update → List Rid
  | .rid value => [value]
  | _ => []

/-- The header extensions an update adds. -/
def extensions : Update → List ExtMap
  | .extmap extension => [extension]
  | _ => []

/-- The candidates an update adds. -/
def candidates : Update → List CandidateInfo
  | .candidate value => [value]
  | _ => []

/-- The bundle tags an update adds. -/
def tags : Update → List BundleTag
  | .tag id => [⟨id, .other⟩]
  | _ => []

/-- The user name an update sets for audio or for video. -/
def usernameOf (audio : Bool) : Update → Option Text
  | .username mediaType value => if decide (mediaType = .audio) = audio then some value else none
  | _ => none

/-- The password an update sets for audio or for video. -/
def passwordOf (audio : Bool) : Update → Option Text
  | .password mediaType value => if decide (mediaType = .audio) = audio then some value else none
  | _ => none

end Update

/-- The codecs that were read, after an update. -/
def readCodec (codecs : Std.ExtTreeMap UInt32 RtpMap) : Update → Std.ExtTreeMap UInt32 RtpMap
  | .rtpmap pt name clock mediaType =>
      codecs.insert pt { (codecs[pt]?).getD (newMap unset pt) with
        payloadType := pt, encodingName := name, clockRate := clock, mediaType := mediaType }
  | .feedback pt feedback =>
      codecs.insert pt { (codecs[pt]?).getD (newMap unset pt) with
        feedbackTypes := ((codecs[pt]?).getD (newMap unset pt)).feedbackTypes ++ [feedback] }
  | .parameter pt parameter =>
      codecs.insert pt { (codecs[pt]?).getD (newMap unset pt) with
        formatParameters := ((codecs[pt]?).getD (newMap unset pt)).formatParameters.insert parameter.1 parameter.2 }
  | _ => codecs

/-- The bundle tags after an update. -/
def updateTags (isBundle : Bool) (bundleTags : List BundleTag) : Update → Option (List BundleTag)
  | .mid id mediaType => if isBundle then setMediaType id mediaType bundleTags else some bundleTags
  | update => some (bundleTags ++ update.tags)

/-- The tables of the negotiated codecs. -/
structure Tables where
  payloadVector : List RtpMap
  videoCodecs : ℤ
  audioCodecs : ℤ
  inOutPTMap : PayloadTypeMap
  outInPTMap : PayloadTypeMap
  deriving DecidableEq

/-- The tables of a description. -/
def tables (sdp : SdpInfo) : Tables :=
  ⟨sdp.payloadVector, sdp.videoCodecs, sdp.audioCodecs, sdp.inOutPTMap, sdp.outInPTMap⟩

/-- What an update does to each part. -/
structure Applied (sdp : SdpInfo) (update : Update) (next : SdpInfo) : Prop where
  tables : next.tables = sdp.tables
  internal : next.internalPayloadVector = sdp.internalPayloadVector
  codecs : next.payloadParsedMap = readCodec unset sdp.payloadParsedMap update
  rids : next.rids = sdp.rids ++ update.rids
  extensions : next.extMapVector = sdp.extMapVector ++ update.extensions
  candidates : next.candidateVector = sdp.candidateVector ++ update.candidates
  isBundle : next.isBundle = (sdp.isBundle || decide (update = .bundle))
  bundleTags : updateTags sdp.isBundle sdp.bundleTags update = some next.bundleTags
  videoUsername : next.iceVideoUsername = (update.usernameOf false).getD sdp.iceVideoUsername
  audioUsername : next.iceAudioUsername = (update.usernameOf true).getD sdp.iceAudioUsername
  videoPassword : next.iceVideoPassword = (update.passwordOf false).getD sdp.iceVideoPassword
  audioPassword : next.iceAudioPassword = (update.passwordOf true).getD sdp.iceAudioPassword

/-- **An update, part by part.** -/
theorem applied {sdp next : SdpInfo} {update : Update} (result : apply unset sdp update = some next) :
    Applied unset sdp update next := by
  cases update with
  | mid id mediaType =>
      rw [apply] at result
      split_ifs at result with bundled
      · obtain ⟨bundleTags, set, rfl⟩ := Option.map_eq_some_iff.mp result
        constructor <;> simp [tables, readCodec, Update.rids, Update.extensions, Update.candidates, updateTags,
          Update.usernameOf, Update.passwordOf, bundled, set]
      · cases result
        constructor <;> simp [tables, readCodec, Update.rids, Update.extensions, Update.candidates, updateTags,
          Update.usernameOf, Update.passwordOf, bundled]
  | direction mediaType direction | username mediaType value | password mediaType value =>
      cases result
      cases mediaType <;> constructor <;> simp [tables, readCodec, Update.rids, Update.extensions, Update.candidates,
        updateTags, Update.tags, Update.usernameOf, Update.passwordOf, setUsername, setPassword]
  | _ =>
      cases result
      constructor <;> simp [tables, readCodec, Update.rids, Update.extensions, Update.candidates, updateTags, Update.tags,
        Update.usernameOf, Update.passwordOf, setElement, element, setParameter]

/-- Where every update acts on a part of a description alone, so do all of them. -/
theorem applyAll_read {α : Type} {read : SdpInfo → α} {step : α → Update → α}
    (each : ∀ {sdp update next}, Applied unset sdp update next → read next = step (read sdp) update)
    {sdp next : SdpInfo} {updates : List Update} (result : applyAll unset sdp updates = some next) :
    read next = updates.foldl step (read sdp) := by
  induction updates generalizing sdp with
  | nil => rw [← Option.some_injective _ result, List.foldl_nil]
  | cons update updates ih =>
      obtain ⟨between, one, rest⟩ := Option.bind_eq_some_iff.mp result
      rw [List.foldl_cons, ih rest, each (applied unset one)]

/-- What every update leaves alone, all of them do. -/
theorem applyAll_keeps {α : Type} {read : SdpInfo → α}
    (each : ∀ {sdp update next}, Applied unset sdp update next → read next = read sdp)
    {sdp next : SdpInfo} {updates : List Update} (result : applyAll unset sdp updates = some next) :
    read next = read sdp := by
  have fold := @applyAll_read unset α read (fun part _ => part) each sdp next updates result
  rwa [List.foldl_fixed] at fold

end SdpInfo

end Erizo

