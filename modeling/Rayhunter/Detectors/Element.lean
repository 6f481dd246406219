import Rayhunter.Analysis.Event
import Rayhunter.Lib.Mealy

/-!
# What the detectors read

`InformationElement` of `lib/src/analysis/information_element.rs` as the detectors look into it. The
messages in it are decoded by other libraries; there is a constructor for every kind a detector
names, with the fields it reads, and one for the others.
-/

namespace Rayhunter

/-! ## NAS messages -/

/-- `IDTypeV`: what an identity request asks for. -/
inductive IdType
  | imsi
  | other (value : UInt8)
  deriving DecidableEq, Repr

/-- The `EMMCauseEMMCause` of an authentication failure. -/
inductive AuthenticationFailureCause
  | macFailure
  | nonEpsAuthenticationUnacceptable
  | synchFailure
  | other (value : UInt8)
  deriving DecidableEq, Repr

/-- The `EMMCauseEMMCause` of an attach reject. -/
inductive AttachRejectCause
  | epsServicesAndNonEpsServicesNotAllowed
  | other (value : UInt8)
  deriving DecidableEq, Repr

/-- The `GenericContTypeGenericContType` of a generic NAS transport. -/
inductive GenericContType
  | lppMessageContainer
  | other (value : UInt8)
  deriving DecidableEq, Repr

/-- `TAI`: the tracking area a phone was in. -/
structure Tai where
  plmn : List UInt8
  deriving DecidableEq, Repr

/-- `EMMMessage`. -/
inductive EmmMessage
  | attachRequest (oldTai : Option Tai)
  | attachAccept
  | attachComplete
  | attachReject (emmCause : AttachRejectCause)
  | detachRequestMo
  | detachRequestMt
  | trackingAreaUpdateRequest
  | trackingAreaUpdateAccept
  | trackingAreaUpdateReject
  | extServiceRequest
  | cpServiceRequest
  | serviceAccept
  | serviceReject
  | identityRequest (idType : IdType)
  | authenticationResponse
  | authenticationFailure (emmCause : AuthenticationFailureCause)
  | securityModeCommand
  | dlGenericNasTransport (contType : GenericContType) (container : List UInt8)
  | ulGenericNasTransport (contType : GenericContType) (container : List UInt8)
  | other
  deriving DecidableEq, Repr

/-- `NASMessage` as it is decoded. -/
inductive DecodedNasMessage
  | emm (message : EmmMessage)
  | other
  deriving DecidableEq, Repr

/-! ## RRC messages -/

/-- `PLMN_Identity`: the digits of a network's country, where they are given, and its own. -/
structure PlmnIdentity where
  mcc : Option (List UInt8)
  mnc : List UInt8
  deriving DecidableEq, Repr

/-- `BCCH_DL_SCH_Message`, of which a first system information block lists the cell's networks. -/
inductive BcchDlSchMessage
  | systemInformationBlockType1 (plmnIdentityList : List PlmnIdentity)
  | other
  deriving DecidableEq, Repr

/-- `UL_CCCH_Message`. -/
inductive UlCcchMessage
  | rrcConnectionRequest
  | rrcConnectionReestablishmentRequest
  | other
  deriving DecidableEq, Repr

/-! ## Elements -/

/-- `LteInformationElement` (`information_element.rs:47`). -/
inductive LteInformationElement
  | ulCcch (message : UlCcchMessage)
  | bcchDlSch (message : BcchDlSchMessage)
  | nas (message : DecodedNasMessage)
  | other
  deriving DecidableEq, Repr

/-- `InformationElement` (`information_element.rs:23`). -/
inductive Analysis.InformationElement
  | gsm
  | umts
  | lte (element : LteInformationElement)
  | fiveG
  deriving DecidableEq, Repr

/-- An EMM message as an element. -/
def EmmMessage.element (m : EmmMessage) : Analysis.InformationElement := .lte (.nas (.emm m))

/-- An element with the number of its packet, as a detector is given them. -/
structure Arrival where
  ie : Analysis.InformationElement
  packetNum : Nat
  deriving DecidableEq, Repr

end Rayhunter
