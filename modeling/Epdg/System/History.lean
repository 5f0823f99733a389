import Epdg.System.Invariants

/-!
What every effect records in the trace.

Most effects record nothing, or only events of messages and of sessions going away. The
remaining ones are listed with what they rest on.
-/
namespace Epdg
open Ikev2
variable {e : Event} {remote : UDPAddr} {msg : Bytes} {hdr : IKEHeader} {w0 : World}

def Event.isPlain : Event → Bool
  | .sent .. | .derSent .. | .deaReceived .. | .authCompleted .. => true
  | e => e.isRelease

theorem Event.isPlain_of_isRelease (h : e.isRelease = true) : e.isPlain = true := by
  cases e <;> first | rfl | exact h

inductive QuietTrace (S : Server) (w w' : World) : Prop
  | plain (new : List Event) (ht : w'.trace = new ++ w.trace)
      (hp : ∀ e ∈ new, e.isPlain = true)
  | verified (sa : IkeSA) (auth : Bytes) (h : w.lookupSA sa.spiI = some sa)
      (hs : sa.state = .auth) (hlen : sa.msk.length = 64)
      (heq : expectedAuth S.prims sa = auth) (ht : w'.trace = .authVerified sa auth :: w.trace)
  | s2bCreate (sa : IkeSA) (auth : Bytes) (req : CreateSessionRequest)
      (hv : .authVerified sa auth ∈ w.trace) (ht : w'.trace = .s2bCreate sa.ref req :: w.trace)

section
variable {S : Server} {env : Env} {allowed : Triggers} {w w' : World}

theorem QuietTrace.same (h : w'.trace = w.trace) : QuietTrace S w w' :=
  .plain [] h fun _ he => by cases he

theorem QuietTrace.one (hp : e.isPlain = true) (h : w'.trace = e :: w.trace) :
    QuietTrace S w w' := by
  refine .plain [e] h ?_
  simp_all

theorem QuietTrace.released {new : List Event} (h : w'.trace = new ++ w.trace)
    (hr : ∀ e ∈ new, e.isRelease = true) : QuietTrace S w w' :=
  .plain new h fun e he => Event.isPlain_of_isRelease (hr e he)

theorem trace_removeStates (w : World) (sa : IkeSA) (pair : IP → Xfrm.EspPair) :
    (removeStates w sa pair).trace = w.trace := by
  simp only [removeStates]
  split <;> rfl

theorem trace_deleteESP (P : Primitives) (w : World) (sa : IkeSA) (spi : UInt32) :
    (deleteESP P w sa spi).1.trace = w.trace := by
  simp only [deleteESP]
  split
  · split
    · rw [World.updateSession_trace]
      exact trace_removeStates _ _ _
    obtain ⟨k, hk⟩ := removeXFRMChildSA_eq P w sa
    rw [hk]
    rfl
  · split
    · exact trace_removeStates _ _ _
    · rfl

theorem Quiet.trace (h : Quiet S env allowed w w') : QuietTrace S w w' := by
  cases h with
  | sent | derSent | deaReceived | completed => exact .one rfl rfl
  | cookies | pgwTable | gtpu | kernel | touch | auth | openSession | success | expire =>
    exact .same rfl
  | session id f hf => exact .same (World.updateSession_trace _ _ _)
  | verified sa auth h hs hlen heq => exact .verified sa auth h hs hlen heq rfl
  | s2bCreate sa auth req hv => exact .s2bCreate sa auth req hv rfl
  | teardown sa h =>
    obtain ⟨new, ht, hr⟩ := trace_fullTeardown S.prims env.strOpen (w.storeSA sa.closing)
      sa.closing
    exact .released ht hr
  | pgw ev hev =>
    obtain ⟨new, ht, hr⟩ := (handlePGW_aside w env ev).trace
    exact .released ht hr
  | deleteESP sa spi h => exact .same (trace_deleteESP S.prims w sa spi)

inductive MajorTrace (w w' : World) : Prop
  | same (ht : w'.trace = w.trace)
  | established (sa : IkeSA) (auth : Bytes) (released installed : List Event)
      (hv : .authVerified sa auth ∈ w.trace) (hr : ∀ e ∈ released, e.isRelease = true)
      (hi : ∀ e ∈ installed, ∃ p, e = .childInstalled sa.ref p)
      (ht : w'.trace = installed ++ .established sa.ref :: (released ++ w.trace))
  | childRekeyed (sa : IkeSA) (pfs : Bool) (p : Xfrm.ChildSAParams)
      (ht : w'.trace = .childRekeyed sa.ref pfs p :: w.trace)
  | ikeRekeyed (sa : IkeSA) (h : w.lookupSA sa.spiI = some sa) (hs : sa.state = .established)
      (ht : w'.trace = .ikeRekeyed sa.ref w.nextRef :: w.trace)
  | reinstalled (sa : IkeSA) (p : Xfrm.ChildSAParams)
      (ht : w'.trace = .childReinstalled sa.ref p :: w.trace)

theorem trace_installFinal (P : Primitives) (w : World) (env : Env) (remote : UDPAddr)
    (sa : IkeSA) (r : CreateSessionResult) :
    ∃ installed, (installFinal P w env remote sa r).1.trace = installed ++ w.trace ∧
      ∀ e ∈ installed, ∃ p, e = .childInstalled sa.ref p := by
  have h := installFinal_cases P w env remote sa r
  generalize installFinal P w env remote sa r = out at h
  cases h with
  | skipped | failed => exact ⟨[], rfl, fun _ he => by cases he⟩
  | installed prop localIP k =>
    refine ⟨[_], rfl, ?_⟩
    simp_all

theorem Major.trace (h : Major S env remote msg hdr w0 w w') : MajorTrace w w' := by
  cases h with
  | create | challenge => exact .same rfl
  | swmStart | recordS2b => exact .same (World.updateSession_trace _ _ _)
  | establish sa0 sa pl auth r spi hex h0 hst0 hopen hsa h hv hr hspi =>
    obtain ⟨released, hr, hrel⟩ := trace_markEstablished w env sa r spi
    obtain ⟨installed, hins, hi⟩ := trace_installFinal S.prims
      (markEstablished w env sa r spi) env remote (sa.establish spi) r
    exact .established sa auth released installed hv hr hi (hins.trans (by rw [hrel]))
  | childRekey sa0 sa offer nonceI nonceR ke prop propNum peerSPI spi dh p =>
    exact .childRekeyed sa dh.isPFS p rfl
  | ikeRekey sa0 sa offer ke prop propNum nonceI nonceR priv shared newSPII newSPIR hex h0
      hst0 hsa hopen hp hw h =>
    refine .ikeRekeyed sa h (by rw [hsa]; exact hst0.2) ?_
    simp only [ikeRekeyStore, World.updateSession_trace]
    rfl
  | migrate w1 sa0 sa pl prop localIP ok hex h0 hst0 hsa hopen hup hcookie hchild hw hmig =>
    have hc := migrateMobikeXFRM_cases S.prims w env sa prop localIP remote
    rw [hmig] at hc
    cases hc with
    | refused | failed => exact .same rfl
    | moved k hk => exact .reinstalled sa _ rfl

theorem Quiet.trace_suffix (h : Quiet S env allowed w w') (he : e ∈ w.trace) : e ∈ w'.trace := by
  cases h.trace with
  | plain new ht => exact ht ▸ List.mem_append_right _ he
  | verified sa auth _ _ _ _ ht | s2bCreate sa auth req _ ht => simp_all

theorem Major.trace_suffix (h : Major S env remote msg hdr w0 w w') (he : e ∈ w.trace) :
    e ∈ w'.trace := by
  cases h.trace with
  | same ht => exact ht ▸ he
  | established sa auth released installed hv hr hi ht => simp [ht, he]
  | childRekeyed sa pfs p ht | ikeRekeyed sa _ _ ht | reinstalled sa p ht => simp_all

end
end Epdg
