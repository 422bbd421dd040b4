import Sentry.Talker.RoundTrip
import Sentry.Talker.Resync
import Sentry.Talker.Windows
import Sentry.Talker.Bounds
import Sentry.Talker.Session
import Sentry.Talker.Uplink
import Sentry.Talker.Velocity
import Sentry.Behavior.Goal
import Sentry.Behavior.Resume
import Sentry.Behavior.Override
import Sentry.Behavior.Fallback
import Sentry.Behavior.ModeTopic
import Sentry.Behavior.Halting
import Sentry.Robot.Mode
import Sentry.Robot.Health
import Sentry.Behavior.Laps
import Sentry.Behavior.Announcements
import Sentry.Behavior.Throttle
import Sentry.Behavior.Patrol
import Sentry.Behavior.ActionRun
import Sentry.Ros.TreeResults
import Sentry.Ros.Mailboxes
import Sentry.Talker.Keepalive
import Sentry.Ros.ServiceCalls
import Sentry.Robot.Link
import Sentry.Robot.Moving
import Sentry.Robot.Departure
