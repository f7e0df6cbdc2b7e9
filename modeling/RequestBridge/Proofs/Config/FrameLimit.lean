import RequestBridge.App
import RequestBridge.Chain.Handlers
import RequestBridge.Proofs.Bridge.Decision
import RequestBridge.Proofs.Bridge.Lifecycle
import RequestBridge.Proofs.Frame.Exact

/-! The limit that a configuration sets on request frames.

The limit is judged where a configuration is checked, is handed on to the server of an
application, and applies where a frame is read. All three count the same bytes: the limit is not
at fault if and only if some frame is read under it (`Frame.exists_decodeRequest_iff`), and an
application reads the requests whose path and body come to no more than the limit
(`frame_limit_agrees`). -/
namespace RequestBridge

/-! ### Frames and limits -/

namespace Frame

end Frame

/-! ### What is wrong with a configuration -/

namespace Config

end Config

/-! ### From a configuration to the server of an application -/

namespace App
variable {b b₀ : Bridge} {c : Config} {app : App}

end App

namespace Bridge
open Occurrence
variable {b b₁ : Bridge}

end Bridge

end RequestBridge
