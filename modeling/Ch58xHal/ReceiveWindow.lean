import Ch58xHal.Lockstep

/-! The receive window. The receiver is on from `receive_open` for what `take_receive_timeout`
returns; that covers the anchor of the timetable, the drift of both clocks on either side of
it, the transmit window and the longest packet, and it ends where `receive_close` says. -/
namespace Ch58xHal.ReceiveWindow
open ControlPdu Llcp Connection ConnectionEvent ConnectionRun Machines Agenda Lockstep OwnershipSteps

theorem accuracyBound (sca : UInt8) : sleepClockAccuracyPpm sca ≤ 500 := by
  unfold sleepClockAccuracyPpm
  split <;> omega

theorem addExact {a b : Nat} (small : a + b < 2^64) : saturatingAdd a b = a + b :=
  Nat.min_eq_left (Nat.le_pred_of_lt small)

theorem mulExact {a b : Nat} (small : a * b < 2^64) : saturatingMul a b = a * b :=
  Nat.min_eq_left (Nat.le_pred_of_lt small)

/- On a 64-bit clock nothing saturates on the way. -/
theorem wideningBound {elapsed : Nat} (clocked : elapsed < 2^64) (sca : UInt8) :
    windowWideningUs elapsed sca localSleepClockPpm < 2^55 := by
  have ppm := accuracyBound sca
  unfold windowWideningUs saturatingAdd saturatingMul localSleepClockPpm
  dsimp only
  generalize sleepClockAccuracyPpm sca = p at ppm
  have whole : elapsed / 1000000 * (p + 50) ≤ 18446744073710 * 550 :=
    Nat.mul_le_mul (by omega) (by omega)
  have rest : elapsed % 1000000 * (p + 50) ≤ 1000000 * 550 := Nat.mul_le_mul (by omega) (by omega)
  omega

section Window
variable {t : Timetable} {c settled : ActiveConnection} {now : Nat} {notify : Bool}

theorem settledWidening (settles : c.settleInstants now = .ok (settled,notify)) :
    settled.wideningUs = c.wideningUs := by
  obtain ⟨_,_,clock,_⟩ := settleTiming settles
  obtain ⟨channels,request,window,deadline,map,update,asked,shape⟩ := settleShape settles
  have next : settled.nextAnchor = c.nextAnchor := by rw [shape]
  have last : settled.lastSyncAnchor = c.lastSyncAnchor := by rw [shape]
  rw [EventTiming.wideningUs,EventTiming.wideningUs,clock,next,last]

theorem settledWindow (locked : Locked t c) (settles : c.settleInstants now = .ok (settled,notify)) :
    settled.receiveWindowSizeUs = t.windowUs := by
  obtain ⟨terms,step,held⟩ := locked.inStep
  exact settleWindow step locked.executed held settles

/- Whatever was due has been installed, so the close of the window looks at no other update. -/
theorem settledClose (locked : Locked t c) (settles : c.settleInstants now = .ok (settled,notify)) :
    {settled with toEventTiming := settled.nextChannel.1}.receiveClose =
      settled.nextAnchor + saturatingAdd (saturatingAdd settled.wideningUs settled.receiveWindowSizeUs)
        maxDataPacketAirtimeUs := by
  obtain ⟨terms,step,_⟩ := locked.inStep
  obtain ⟨settling,quiet⟩ := settleInStep step settles
  have counter : settled.eventCounter = UInt16.ofNat t.event := settling.counter
  unfold ActiveConnection.receiveClose
  dsimp only
  cases pending : settled.pendingConnectionUpdate with
  | none => rfl
  | some update =>
    have later : update.instant ≠ settled.eventCounter := by
      have undue : due ConnectionUpdateInd.instant t.event settled.pendingConnectionUpdate = false := quiet.1
      rw [pending] at undue
      rw [counter]
      simpa [due] using undue
    have other : ¬update.instant = settled.nextChannel.1.eventCounter := later
    simp only [if_neg other]
    rfl

end Window

theorem windowSmall (t : Timetable) : t.windowUs ≤ 255 * 1250 := by
  unfold Timetable.windowUs
  split
  · have size := (t.terms t.event).2.windowSize.toNat_lt
    omega
  · omega

theorem windowCovers {handle request endUs now c}
    (created : ActiveConnection.newFor handle request endUs now = some c) {trace link}
    (run : History runner ⟨c,false⟩ trace link) (running : link.down = false)
    (clocked : link.connection.nextAnchor < 2^64) :
    ∀ clock radio exchange opens, (step link (.event clock radio)).2.exchange = some exchange →
      link.connection.receiveOpen = some opens →
      opens ≤ link.connection.nextAnchor - link.connection.wideningUs ∧
      link.connection.nextAnchor + (timetable request endUs trace).windowUs + link.connection.wideningUs +
        maxDataPacketAirtimeUs ≤ opens + exchange.timeout ∧
      opens + exchange.timeout = exchange.deadline := by
  intro clock radio exchange opens found opened
  have locked := runLocked created run running
  rw [stepExchange running] at found
  obtain ⟨settled,notify,staged,settles,rfl⟩ := exchanged found
  have widening := settledWidening settles
  have size := settledWindow locked settles
  have close := settledClose locked settles
  have anchor := settledAnchor settles
  have small := windowSmall (timetable request endUs trace)
  have air : maxDataPacketAirtimeUs = 296 := rfl
  have lead : rxSetupLeadUs = 1000 := rfl
  have bound : link.connection.wideningUs < 2^55 := wideningBound (by omega) _
  have timeout : (requested settled staged).timeout =
      rxSetupLeadUs + 2*link.connection.wideningUs + (timetable request endUs trace).windowUs +
        maxDataPacketAirtimeUs := by
    show saturatingAdd (saturatingAdd (saturatingAdd rxSetupLeadUs (saturatingMul settled.wideningUs 2))
      settled.receiveWindowSizeUs) maxDataPacketAirtimeUs = _
    rw [widening,size]
    simp (disch := omega) only [mulExact,addExact,Nat.mul_comm]
  have deadline : (requested settled staged).deadline = link.connection.nextAnchor +
      (link.connection.wideningUs + (timetable request endUs trace).windowUs + maxDataPacketAirtimeUs) := by
    show {settled with toEventTiming := settled.nextChannel.1}.receiveClose = _
    rw [close,widening,size,anchor]
    simp (disch := omega) only [addExact]
  unfold EventTiming.receiveOpen at opened
  split at opened
  · rename_i room
    cases opened
    rw [timeout,deadline]
    omega
  · cases opened

/- The first event after the CONNECT_IND, whose transmit window is 1250 us long. -/
def firstEvent : Link × Report := step ⟨sampleConnection,false⟩ (.event ⟨2000,2000,2000,2000⟩ none)

theorem firstWindowCovers :
    firstEvent.2.exchange.map ExchangeRequest.timeout = some 2548 ∧ sampleConnection.receiveOpen = some 1249 ∧
    (timetable sampleRequest 1000 []).windowUs = 1250 ∧
    (∀ exchange, firstEvent.2.exchange = some exchange → 1249 + exchange.timeout = exchange.deadline) :=
  ⟨by decide +kernel,by decide +kernel,by decide +kernel,fun exchange found =>
    (windowCovers sampleCreated .start rfl (by decide +kernel) _ none exchange 1249 found (by decide +kernel)).2.2⟩

/- That event is missed. The next one has no room left for the transmit window, although the
Central has not been heard since the CONNECT_IND. -/
theorem secondWindowNarrow :
    (step firstEvent.1 (.event ⟨32000,32000,32000,32000⟩ none)).2.exchange.map ExchangeRequest.timeout = some 1332 ∧
    firstEvent.1.connection.receiveOpen = some 31232 ∧
    ¬firstEvent.1.connection.nextAnchor + sampleRequest.windowSize.toNat * 1250 +
      firstEvent.1.connection.wideningUs + maxDataPacketAirtimeUs ≤ 31232 + 1332 :=
  ⟨by decide +kernel,by decide +kernel,by decide +kernel⟩

end Ch58xHal.ReceiveWindow
