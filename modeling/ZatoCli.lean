import ZatoCli.Python.Str
import ZatoCli.Python.Namespace
import ZatoCli.Python.Format
import ZatoCli.Command.StoreConfig
import ZatoCli.Command.Password
import ZatoCli.Command.CaCreate
import ZatoCli.Manage.Zdaemon
import ZatoCli.Manage.Dispatch
import ZatoCli.Manage.Lifecycle
