/-
**Launchers.**

A launcher knows where the driver of a session listens, and how to stop it.

Main definitions:

* `Launcher` — the launchers, and `Launcher.stop`;
* `Launcher.attached` — the launcher of a driver that runs anyway.
-/

import WebDriverClient.Browsing.Client
import WebDriverClient.Url.Parse

set_option autoImplicit false

namespace WebDriverClient

/-- Where a driver listens, and how to stop it. -/
structure Launcher (σ : Type) where
  base : Url
  halt : Client σ Unit

namespace Launcher

variable {σ : Type}

/-- Stops the driver. -/
def stop (l : Launcher σ) : Client σ Unit := do
  Client.record .stop
  l.halt

/-- The launcher of a driver that runs anyway, which is left alone. -/
def attached (base : Url) : Launcher σ := ⟨base, pure ()⟩

end Launcher

end WebDriverClient
